import HomeClimate.Config.Basic
import HomeClimate.House.Error
import HomeClimate.Schedule.Scheduler
import HomeClimate.Schedule.SettingsText
import HomeClimate.Time.Seconds

/-!
# The parts of a house

What a configuration describes, as the parts that run: the thermostat and the
economizer of a zone, the zone itself, and the schedules.

The parts have checks of their own, so a configuration that was not checked can
be refused here too.  A window of a controller that is no span is a fault.
-/

namespace HomeClimate

variable {ν : Type} [Scalar ν]

/-! ## Zones -/

/-- A number of seconds as a span, which it must be. -/
def spanOfSeconds (seconds : ν) : Except (HouseError ν) Span :=
  match Span.ofSeconds? seconds with
  | some span => .ok span
  | none => .error (.fault .outOfRange)

/-- A number of seconds as a span, or the usual span if there is none. -/
def spanOr (usual : Span) : Option ν → Except (HouseError ν) Span
  | none => .ok usual
  | some seconds => spanOfSeconds seconds

/-- The settings of the controller. -/
def PidConfig.settings (c : PidConfig ν) : Except (HouseError ν) (PidSettings ν) := do
  let usual := PidSettings.ofGains c.p c.i c.d c.limit
  let integralSpan ← spanOr usual.integralSpan c.integralSeconds
  let slopeSpan ← spanOr usual.slopeSpan c.slopeSeconds
  return { usual with integralSpan, slopeSpan }

namespace EconomizerConfig

/-- When outside air is to be used. -/
def settings (e : EconomizerConfig ν) : EconomizerSettings ν :=
  { enabled := some e.enabled, changeoverDelta := e.changeoverDelta, target := e.target,
    keepsHvacOn := e.keepsHvacOn, maxPower := e.maxPower }

/-- The gains of the controller.  Only three numbers of its settings count. -/
def gains (e : EconomizerConfig ν) : EconomizerGains ν :=
  match e.pid with
  | some pid => ⟨pid.p, pid.i, pid.limit⟩
  | none => .standard

/-- How the economizer is set up. -/
def setup (e : EconomizerConfig ν) : EconomizerSetup ν :=
  ⟨e.mode, e.settings, e.gains, Span.seconds e.timeoutSeconds⟩

/-- The device of an economizer that is given none. -/
def standardDevice (e : EconomizerConfig ν) (zone : String) : Device :=
  ⟨zone ++ " economizer", [e.mode]⟩

end EconomizerConfig

namespace ZoneConfig

/-- The thermostat of the zone. -/
def thermostat (z : ZoneConfig ν) : Except (HouseError ν) (Thermostat ν) := do
  let range ← HouseError.ofZone (SetpointRange.create z.range.min z.range.max)
  let pid ← z.pid.settings
  HouseError.ofZone (Thermostat.create z.name z.setpoint range pid)

/-- The settings that the zone starts with. -/
def settings (z : ZoneConfig ν) : ZoneSettings ν :=
  { enabled := some z.enabled, setpoint := some z.setpoint, voting := some z.voting,
    hold := some false, dumpPriority := some z.dumpPriority,
    economizer := z.economizer.map EconomizerConfig.settings }

/-- The economizer of the zone, if it has one and there is a device for it. -/
def buildEconomizer (z : ZoneConfig ν) (device : Option Device) :
    Except (HouseError ν) (Option (Economizer ν)) :=
  match z.economizer, device with
  | some e, some device => HouseError.ofZone ((Economizer.create z.name e.setup device).map some)
  | _, _ => .ok none

/-- The zone, with a device for its economizer. -/
def build (z : ZoneConfig ν) (device : Option Device) : Except (HouseError ν) (Zone ν) := do
  let thermostat ← z.thermostat
  let economizer ← z.buildEconomizer device
  HouseError.ofZone (Zone.create thermostat z.settings economizer)

end ZoneConfig

/-! ## Schedules -/

/-- How often the scheduler acts. -/
def SchedulerConfig.settings (s : SchedulerConfig) : SchedulerSettings :=
  ⟨Span.seconds s.granularitySeconds, Span.seconds s.pollSeconds⟩

/-- The period, told from others by an id, and what it stands for. -/
def PeriodConfig.build (p : PeriodConfig) (id : String) :
    Except (HouseError ν) (Period × ZoneSettings ν) := do
  let period ← HouseError.ofSchedule (Period.read id p.name p.start p.stop p.days)
  let settings ← HouseError.ofSchedule (SettingsText.read p.settings)
  return (period, settings)

namespace SystemConfig

/-- Nothing, or the first fault of the configuration. -/
def validate (c : SystemConfig ν) : Except (HouseError ν) Unit := HouseError.ofCheck c.check

/-- The zone of a name, or an error. -/
def zone (c : SystemConfig ν) (name : String) : Except (HouseError ν) (ZoneConfig ν) :=
  match c.zone? name with
  | some z => .ok z
  | none => .error (.unknownZone name)

/-- The schedules with one more period of a zone. -/
def addPeriod (schedules : Table String (Schedule ν)) (zone : String) (period : Period)
    (settings : ZoneSettings ν) : Table String (Schedule ν) :=
  let schedule : Schedule ν := (schedules.get? zone).getD []
  schedules.insert zone (schedule.insert period settings)

/-- The schedules of all zones.  No two entries make one period. -/
def schedules (c : SystemConfig ν) : Except (HouseError ν) (Table String (Schedule ν)) :=
  c.schedule.zipIdx.foldlM (fun schedules (entry, index) => do
    let (period, settings) ← entry.build (toString index)
    return addPeriod schedules entry.zone period settings) []

end SystemConfig

end HomeClimate
