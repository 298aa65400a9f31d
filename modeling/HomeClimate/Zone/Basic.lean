import HomeClimate.Zone.Economizer

/-!
# Zones

A zone is a thermostat with settings, and with an economizer if it has one.  It
turns a temperature into a status: the verdict of the thermostat, or idle while
the zone is disabled or its economizer suppresses it.

Settings change by updates.  An update is checked before anything is changed.  A
period of the schedule is remembered first and then applied like an update,
except while the zone is on hold; so a period that is rejected is remembered too.

`replay?` renders the last verdict again, under the settings of the moment.  A zone
remembers that its settings changed until someone looks, by `wakeUp`; several
changes count as one.
-/

namespace HomeClimate

variable {ν : Type} [Scalar ν]

/-- A part of the house with a temperature of its own. -/
structure Zone (ν : Type) where
  /-- What it is called. -/
  name : String
  /-- What turns temperatures into verdicts. -/
  thermostat : Thermostat ν
  /-- What a user or the schedule wants. -/
  settings : ZoneSettings ν
  /-- The period of the schedule that it is in. -/
  period : Option (PeriodSettings ν)
  /-- The last verdict. -/
  lastVerdict : Option (Signal (CallingStatus ν))
  /-- What conditions it with outside air. -/
  economizer : Option (Economizer ν)
  /-- Whether it was shut down. -/
  isClosed : Bool
  /-- Whether its settings changed since someone looked. -/
  wakeUp : Bool

namespace Zone

/-! ## Settings -/

/-- The economizer with the settings of the zone, where there are both. -/
def configureEconomizer (economizer : Option (Economizer ν)) (settings : ZoneSettings ν) :
    Except (ZoneError ν) (Option (Economizer ν)) :=
  match economizer, settings.economizer with
  | some e, some s => (e.setSettings s).map some
  | e, _ => .ok e

/-- A zone that has seen no sample.  Without a setpoint it takes that of the thermostat. -/
def create (thermostat : Thermostat ν) (settings : ZoneSettings ν)
    (economizer : Option (Economizer ν)) : Except (ZoneError ν) (Zone ν) := do
  let setpoint := settings.setpoint.getD thermostat.setpoint
  let thermostat ← thermostat.setSetpoint setpoint
  let settings := { settings with setpoint := some setpoint }
  let economizer ← configureEconomizer economizer settings
  return { name := thermostat.name, thermostat, settings, period := none, lastVerdict := none,
           economizer, isClosed := false, wakeUp := false }

/-- Nothing, or what is wrong with an update. -/
def checkUpdate (z : Zone ν) (update : ZoneSettings ν) : Except (ZoneError ν) Unit := do
  match update.setpoint with
  | some setpoint => z.thermostat.range.check setpoint
  | none => .ok ()
  match update.economizer with
  | some s => checkEconomizerSettings s
  | none => .ok ()

/-- The thermostat with the setpoint of an update, if it has one. -/
def retarget (t : Thermostat ν) (update : ZoneSettings ν) : Except (ZoneError ν) (Thermostat ν) :=
  match update.setpoint with
  | some setpoint => t.setSetpoint setpoint
  | none => .ok t

/-- The zone after an update, and the merged settings or an error.  An error does not undo what was
done before it. -/
def apply (z : Zone ν) (update : ZoneSettings ν) :
    Zone ν × Except (ZoneError ν) (ZoneSettings ν) :=
  match z.checkUpdate update with
  | .error e => (z, .error e)
  | .ok () =>
    match retarget z.thermostat update with
    | .error e => (z, .error e)
    | .ok thermostat =>
      let z := { z with thermostat }
      let merged := z.settings.merge update
      match configureEconomizer z.economizer merged with
      | .error e => (z, .error e)
      | .ok economizer => ({ z with economizer, settings := merged }, .ok merged)

/-- The zone after an update by a user, and the merged settings or an error. -/
def setSettings (z : Zone ν) (update : ZoneSettings ν) :
    Zone ν × Except (ZoneError ν) (ZoneSettings ν) :=
  match z.apply update with
  | (z, .ok merged) => ({ z with wakeUp := true }, .ok merged)
  | (z, .error e) => (z, .error e)

/-- The zone after a period began or none is left, or an error. -/
def setPeriod (z : Zone ν) (period : Option (PeriodSettings ν)) :
    Zone ν × Except (ZoneError ν) Unit :=
  let z := { z with period }
  match period with
  | none => (z, .ok ())
  | some p =>
    if z.settings.isOnHold then (z, .ok ())
    else
      match z.apply p.settings with
      | (z, .ok _) => ({ z with wakeUp := true }, .ok ())
      | (z, .error e) => (z, .error e)

/-! ## Samples -/

/-- A verdict as a status of the zone. -/
def render (z : Zone ν) (verdict : Signal (CallingStatus ν)) : Signal (ZoneStatus ν) :=
  let status := verdict.map fun calling =>
    { settings := z.settings, calling := if z.settings.isEnabled then calling else .idle,
      economizer := none, period := z.period : ZoneStatus ν }
  let status := status.attributed (some z.name)
  match z.economizer with
  | some e => e.suppress status
  | none => status

/-- The zone after something was done to its economizer, if it has one. -/
def withEconomizer (z : Zone ν) (act : Economizer ν → Attempt ν (Economizer ν) (Signal ν)) :
    Attempt ν (Zone ν) Unit :=
  match z.economizer with
  | none => (z, .ok ())
  | some e =>
    let (e, given) := act e
    ({ z with economizer := some e }, given.map fun _ => ())

/-- The zone after a sample at a time of the clock, and its status.  The economizer takes the sample
first and keeps it even if the thermostat then faults. -/
def attempt (z : Zone ν) (now : Instant) (sample : Signal ν) :
    Attempt ν (Zone ν) (Signal (ZoneStatus ν)) :=
  match z.withEconomizer (·.recordIndoor now sample) with
  | (z, .error f) => (z, .error f)
  | (z, .ok ()) =>
    match z.thermostat.attemptSample (sample.attributed none) with
    | (thermostat, .error f) => ({ z with thermostat }, .error f)
    | (thermostat, .ok verdict) =>
      let z := { z with thermostat, lastVerdict := some verdict }
      (z, .ok (z.render verdict))

/-- The zone after a sample at a time of the clock, and its status, unless there is a fault. -/
def compute (z : Zone ν) (now : Instant) (sample : Signal ν) :
    Except (Fault ν) (Zone ν × Signal (ZoneStatus ν)) :=
  (z.attempt now sample).complete

/-- The last verdict as a status under the settings of the moment. -/
def replay? (z : Zone ν) : Option (Signal (ZoneStatus ν)) := z.lastVerdict.map z.render

/-- The zone after its economizer took a reading outside. -/
def recordAmbient (z : Zone ν) (now : Instant) (reading : Signal ν) : Attempt ν (Zone ν) Unit :=
  z.withEconomizer (·.recordAmbient now reading)

/-- The zone after it was shut down. -/
def close (z : Zone ν) : Zone ν :=
  if z.isClosed then z
  else { z with economizer := z.economizer.map Economizer.close, isClosed := true }

end Zone

end HomeClimate
