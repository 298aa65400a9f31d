import HomeClimate.Number.Scalar
import HomeClimate.Zone.Device

/-!
# Configurations

A *configuration* describes a house: the unit, the zones with their sensors and
economizers, the sensors outside, and the schedule.  It is what a user writes
down, so spans are plain numbers in seconds or milliseconds and the parts of a
schedule are texts.

Nothing here is checked.  What a configuration must satisfy is in `Config.Check`,
and what it looks like in a file is in `Config.Document`.
-/

namespace HomeClimate

/-- The unit that all zones share. -/
structure UnitConfig where
  /-- What it is called. -/
  name : String := "unit"
  /-- What it does to the air. -/
  mode : Mode := .cooling
  /-- How long an equal command is not repeated, in milliseconds. -/
  rateLimitMillis : Nat := 1000
  deriving Repr, DecidableEq

/-- The setpoints that a zone accepts. -/
structure RangeConfig (ν : Type) where
  /-- The lowest. -/
  min : ν
  /-- The highest. -/
  max : ν
  deriving BEq

/-- The range of a zone that is given none. -/
def RangeConfig.standard {ν : Type} [Scalar ν] : RangeConfig ν := ⟨Scalar.ofInt 10, Scalar.ofInt 40⟩

/-- The settings of a PID controller.  Gains are positive for cooling and negative for heating. -/
structure PidConfig (ν : Type) where
  /-- The proportional gain. -/
  p : ν
  /-- The integral gain. -/
  i : ν
  /-- The derivative gain. -/
  d : ν
  /-- The bound of the integral term, zero for none. -/
  limit : ν
  /-- The window of the integral, in seconds. -/
  integralSeconds : Option ν
  /-- The window of the slope, in seconds. -/
  slopeSeconds : Option ν
  deriving BEq

/-- The sensors of one place, and how their readings are made into one stream. -/
structure SensorConfig where
  /-- The sources, the best first. -/
  sources : List String
  /-- How many readings the median is taken of. -/
  medianDepth : Nat := 1
  /-- How long a silence may be, in milliseconds. -/
  timeoutMillis : Nat := 90000
  /-- Whether a silence is reported again and again. -/
  repeats : Bool := false
  deriving Repr, DecidableEq

/-- An economizer. -/
structure EconomizerConfig (ν : Type) where
  /-- Whether it cools or heats. -/
  mode : Mode
  /-- How much better the outside air must be. -/
  changeoverDelta : ν
  /-- The temperature inside at which to stop. -/
  target : ν
  /-- Whether it is used at all. -/
  enabled : Bool
  /-- Whether the unit keeps running meanwhile. -/
  keepsHvacOn : Bool
  /-- The share of its power that the device runs at. -/
  maxPower : ν
  /-- The gains of its controller. -/
  pid : Option (PidConfig ν)
  /-- How old a reading may be, in seconds. -/
  timeoutSeconds : Nat
  deriving BEq

/-- A zone. -/
structure ZoneConfig (ν : Type) where
  /-- What it is called. -/
  name : String
  /-- The temperature that it starts with. -/
  setpoint : ν
  /-- The setpoints that it accepts. -/
  range : RangeConfig ν
  /-- Its controller. -/
  pid : PidConfig ν
  /-- Whether it is conditioned. -/
  enabled : Bool
  /-- Whether it may start the unit. -/
  voting : Bool
  /-- Its place among zones that take surplus air. -/
  dumpPriority : Int
  /-- Its sensors. -/
  sensor : SensorConfig
  /-- Its economizer. -/
  economizer : Option (EconomizerConfig ν)
  deriving BEq

/-- How often the scheduler acts. -/
structure SchedulerConfig where
  /-- The time between two ticks, in seconds. -/
  granularitySeconds : Nat := 10
  /-- The time between two fetches of the schedule, in seconds. -/
  pollSeconds : Nat := 60
  deriving Repr, DecidableEq

/-- A period of the schedule, in texts. -/
structure PeriodConfig where
  /-- The zone that it is for. -/
  zone : String
  /-- What it is called. -/
  name : String
  /-- When it starts. -/
  start : String
  /-- When it ends. -/
  stop : String
  /-- Seven characters from Monday on, a blank for a day off. -/
  days : String
  /-- What it wants, in words. -/
  settings : String
  deriving Repr, DecidableEq

/-- A house. -/
structure SystemConfig (ν : Type) where
  /-- The version of the format. -/
  version : Nat
  /-- What the house is called. -/
  name : String
  /-- The unit. -/
  unit : UnitConfig
  /-- The zones. -/
  zones : List (ZoneConfig ν)
  /-- The sensors outside. -/
  ambient : Option SensorConfig
  /-- The scheduler. -/
  scheduler : SchedulerConfig
  /-- The schedule. -/
  schedule : List PeriodConfig
  deriving BEq

namespace SystemConfig

/-- The sensors of all zones, and those outside after them. -/
def sensors {ν : Type} (c : SystemConfig ν) : List SensorConfig :=
  c.zones.map ZoneConfig.sensor ++ c.ambient.toList

/-- The zone of a name. -/
def zone? {ν : Type} (c : SystemConfig ν) (name : String) : Option (ZoneConfig ν) :=
  c.zones.find? fun z => z.name == name

end SystemConfig

/-! ## Summaries -/

/-- A zone in a few words. -/
structure ZoneSummary (ν : Type) where
  name : String
  setpoint : ν
  range : RangeConfig ν
  enabled : Bool
  voting : Bool
  /-- The number of its sources. -/
  sources : Nat
  medianDepth : Nat
  hasEconomizer : Bool
  /-- The number of its periods in the schedule. -/
  periods : Nat

/-- The zones in a few words, in order. -/
def SystemConfig.summaries {ν : Type} (c : SystemConfig ν) : List (ZoneSummary ν) :=
  c.zones.map fun z =>
    { name := z.name, setpoint := z.setpoint, range := z.range, enabled := z.enabled,
      voting := z.voting, sources := z.sensor.sources.length, medianDepth := z.sensor.medianDepth,
      hasEconomizer := z.economizer.isSome,
      periods := (c.schedule.filter fun p => p.zone == z.name).length }

end HomeClimate
