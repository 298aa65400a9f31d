import HomeClimate.Zone.Thermostat

/-!
# Economizers

An economizer conditions a zone with outside air.  It watches the temperature
inside and outside, and turns its device on when the air outside is better by
more than the changeover delta and the zone is not at its target yet.  While the
device is on the demand of the zone is suppressed, unless the settings say that
the unit keeps running.

Every reading, of either kind, is an occasion to decide.

* Not enabled: the device goes off.
* A reading is missing, failed, or older than the timeout: the device goes off.
  Two readings of which one is too old are both forgotten.
* Neither reading is newer than the last decision: nothing changes.
* Otherwise a PID controller and a hysteresis controller decide on the combined
  signal, `combinedSignal`.

The device is commanded only when the decision changes, and never after `close`,
which turns it off once and for all.  Every command is kept in `issued`.
-/

namespace HomeClimate

variable {ν : Type} [Scalar ν]

/-! ## The combined signal -/

/-- How far outside air is better than air inside, beyond the changeover delta. -/
def ambientAdvantage (mode : Mode) (s : EconomizerSettings ν) (indoor ambient : ν) : ν :=
  match mode with
  | .cooling => indoor - (ambient + s.changeoverDelta)
  | .heating => ambient - (indoor + s.changeoverDelta)

/-- How far the zone is from its target. -/
def targetDistance (mode : Mode) (s : EconomizerSettings ν) (indoor : ν) : ν :=
  match mode with
  | .cooling => indoor - s.target
  | .heating => s.target - indoor

/-- The advantage of outside air, less a share of it that grows from nothing to all as the zone
comes within the changeover delta of its target. -/
def combinedSignal (mode : Mode) (s : EconomizerSettings ν) (indoor ambient : ν) : ν :=
  let delta := s.changeoverDelta
  let advantage := ambientAdvantage mode s indoor ambient
  let distance := targetDistance mode s indoor
  let adjustment :=
    if delta < distance ∨ advantage < 0 then 0
    else if delta == 0 then advantage
    else advantage * (delta - distance) / delta
  advantage - adjustment

/-! ## Economizers -/

/-- The gains of an economizer's controller. -/
structure EconomizerGains (ν : Type) where
  p : ν
  i : ν
  limit : ν

/-- The gains of an economizer that is given none. -/
def EconomizerGains.standard : EconomizerGains ν :=
  ⟨1, Scalar.ofDigits 4 (-3), Scalar.ofDigits 11 (-1)⟩

/-- How an economizer is set up. -/
structure EconomizerSetup (ν : Type) where
  /-- Whether it cools or heats. -/
  mode : Mode
  /-- When outside air is to be used. -/
  settings : EconomizerSettings ν
  /-- The gains of the controller. -/
  gains : EconomizerGains ν
  /-- How old a reading may be. -/
  timeout : Span

/-- A setup with the usual gains and readings of up to a minute and a half. -/
def EconomizerSetup.standard (mode : Mode) (settings : EconomizerSettings ν) : EconomizerSetup ν :=
  ⟨mode, settings, .standard, Span.seconds 90⟩

/-- A device for outside air with what decides about it. -/
structure Economizer (ν : Type) where
  /-- What it is called. -/
  name : String
  /-- Whether it cools or heats. -/
  mode : Mode
  /-- How old a reading may be. -/
  timeout : Span
  /-- When outside air is to be used. -/
  settings : EconomizerSettings ν
  /-- The last reading inside. -/
  indoor : Option (Signal ν)
  /-- The last reading outside. -/
  ambient : Option (Signal ν)
  /-- What turns the combined signal into a control signal. -/
  controller : Pid ν
  /-- What turns the control signal into a decision. -/
  renderer : Hysteresis ν
  /-- The time of the readings of the last decision. -/
  lastComputed : Option Instant
  /-- What the device was last told to be, if it was told anything. -/
  actuator : Option Bool
  /-- What it does. -/
  status : EconomizerStatus ν
  /-- Whether it was shut down. -/
  isClosed : Bool
  /-- Every command given to the device, the first one first. -/
  issued : List (Command ν)

namespace Economizer

/-- An economizer that has seen no reading. -/
def create (name : String) (setup : EconomizerSetup ν) (device : Device) :
    Except (ZoneError ν) (Economizer ν) := do
  if ¬ device.modes.contains setup.mode then throw (.modeUnavailable setup.mode device)
  checkEconomizerSettings setup.settings
  let gains := PidSettings.ofGains setup.gains.p setup.gains.i 0 setup.gains.limit
  let controller ← ZoneError.ofControl (Pid.create (controllerName name) 0 gains)
  let renderer ← ZoneError.ofControl (Hysteresis.symmetric (rendererName name) 0 1)
  return { name, mode := setup.mode, timeout := setup.timeout, settings := setup.settings,
           indoor := none, ambient := none, controller, renderer, lastComputed := none,
           actuator := none, status := ⟨some setup.settings, none, 0, false, none⟩,
           isClosed := false, issued := [] }

/-- Whether the device is on. -/
def isActive (e : Economizer ν) : Bool := e.actuator == some true

/-- The last command given to the device. -/
def lastCommand? (e : Economizer ν) : Option (Command ν) := e.issued.getLast?

/-! ## Commanding -/

/-- The economizer after giving a command. -/
def issue (e : Economizer ν) (c : Command ν) : Economizer ν := { e with issued := e.issued ++ [c] }

/-- The command that turns the device on or off. -/
def driveCommand (e : Economizer ν) (on : Bool) : Command ν :=
  let power := if on then e.settings.maxPower else 0
  ⟨some e.mode, power, power⟩

/-- The economizer with its device on or off. -/
def drive (e : Economizer ν) (on : Bool) : Economizer ν :=
  if e.isClosed || e.actuator == some on then e
  else { e with actuator := some on }.issue (e.driveCommand on)

/-- The economizer with nothing asked for and its device off. -/
def disable (e : Economizer ν) : Economizer ν :=
  { e with status := { e.status with demand := 0, calling := false, sample := none } }.drive false

/-- The economizer with other settings. -/
def setSettings (e : Economizer ν) (s : EconomizerSettings ν) :
    Except (ZoneError ν) (Economizer ν) := do
  checkEconomizerSettings s
  let e := { e with settings := s, status := { e.status with settings := some s } }
  return if s.isEnabled then e else e.disable

/-- The economizer after it was shut down. -/
def close (e : Economizer ν) : Economizer ν :=
  if e.isClosed then e
  else { e with actuator := some false, isClosed := true }.issue (.off (some e.mode))

/-! ## Deciding -/

/-- Whether a reading is older than the timeout.  A timeout too long for a difference of times lets
none get too old. -/
def isStale (e : Economizer ν) (now : Instant) (reading : Signal ν) : Bool :=
  match e.timeout.toDifference?.bind now.sub? with
  | some limit => decide (reading.time < limit)
  | none => false

/-- The error of a pair of readings of which one has failed, that of the one inside first. -/
def failureOf (indoor ambient : Signal ν) : Option SignalError :=
  match indoor.health, ambient.health with
  | .totalFailure e, _ => some e
  | _, .totalFailure e => some e
  | _, _ => none

/-- The combined signal of the last readings, and the economizer with what it still knows. -/
def combine (e : Economizer ν) (now : Instant) : Economizer ν × Signal ν :=
  match e.indoor, e.ambient with
  | some indoor, some ambient =>
    match failureOf indoor ambient with
    | some error => (e, .failure now none (.inherited "economizer input" error.message))
    | none =>
      if e.isStale now indoor || e.isStale now ambient then
        ({ e with indoor := none, ambient := none },
          .failure now none (.stale "indoor/ambient pair"))
      else
        match indoor.value?, ambient.value? with
        | some i, some a =>
          let time := if ambient.time < indoor.time then indoor.time else ambient.time
          (e, .healthy time (combinedSignal e.mode e.settings i a))
        | _, _ => (e, .failure now none (.missing "indoor/ambient pair"))
  | _, _ => (e, .failure now none (.missing "indoor/ambient pair"))

/-- The economizer after its controllers decided on a combined signal.  After a fault of the first
controller there is no decision, but its readings are used up. -/
def judge (e : Economizer ν) (time : Instant) (signal : ν) : Attempt ν (Economizer ν) Unit :=
  match e.controller.attempt time signal with
  | (controller, .error f) => ({ e with controller, lastComputed := some time }, .error f)
  | (controller, .ok pid) =>
    let (renderer, rendered) := e.renderer.step time pid.signal
    let on := rendered.signal == 1
    let status : EconomizerStatus ν :=
      ⟨some e.settings, some rendered.detail, pid.signal, on, e.ambient.bind Signal.value?⟩
    ({ e with controller, renderer, lastComputed := some time, status }.drive on, .ok ())

/-- Whether there was a decision on readings as new as these. -/
def isDecided (e : Economizer ν) (time : Instant) : Bool :=
  match e.lastComputed with
  | some last => decide (time ≤ last)
  | none => false

/-- The economizer after a new reading, and the combined signal. -/
def update (e : Economizer ν) (now : Instant) : Attempt ν (Economizer ν) (Signal ν) :=
  if e.settings.isEnabled then
    let (e, combined) := e.combine now
    match combined.value? with
    | none => (e.drive false, .ok combined)
    | some signal =>
      if e.isDecided combined.time then (e, .ok combined)
      else
        let (e, judged) := e.judge combined.time signal
        (e, judged.map fun () => combined)
  else (e.disable, .ok (.healthy now 0))

/-- The economizer after a reading inside, and the combined signal. -/
def recordIndoor (e : Economizer ν) (now : Instant) (reading : Signal ν) :
    Attempt ν (Economizer ν) (Signal ν) :=
  { e with indoor := some (reading.attributed none) }.update now

/-- The economizer after a reading outside, and the combined signal. -/
def recordAmbient (e : Economizer ν) (now : Instant) (reading : Signal ν) :
    Attempt ν (Economizer ν) (Signal ν) :=
  { e with ambient := some reading }.update now

/-! ## Suppressing -/

/-- Whether the demand of the zone is suppressed. -/
def suppresses (e : Economizer ν) : Bool := e.isActive && !e.settings.keepsHvacOn

/-- The status of the zone with what the economizer does to it.  A failure is passed on. -/
def suppress (e : Economizer ν) (s : Signal (ZoneStatus ν)) : Signal (ZoneStatus ν) :=
  s.map fun zone =>
    { zone with
      economizer := some e.status
      calling := if e.suppresses then .idle else zone.calling }

end Economizer

end HomeClimate
