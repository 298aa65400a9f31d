import HomeClimate.Config.Error
import HomeClimate.Control.Fault
import HomeClimate.Filter.Error
import HomeClimate.Schedule.Error

/-!
# Errors of houses

Why a house cannot be put together, run, or asked.  Most of these are errors of
a part of it.
-/

namespace HomeClimate

/-- Why something that is asked of a whole house cannot be done. -/
inductive HouseError (ν : Type) where
  /-- The configuration is not accepted. -/
  | config (e : ConfigError ν)
  /-- A file with a configuration cannot be read. -/
  | unreadableConfig (path : String)
  /-- A file with a configuration cannot be written. -/
  | unwritableConfig (path : String)
  /-- A file with readings cannot be read. -/
  | unreadableReadings
  /-- There is no such zone. -/
  | unknownZone (name : String)
  /-- No place has such a source. -/
  | unknownSource (source : String)
  /-- A zone cannot be set up or changed as asked. -/
  | zone (e : ZoneError ν)
  /-- A filter cannot be set up as asked. -/
  | filter (e : FilterError)
  /-- A part of the schedule cannot be used. -/
  | schedule (e : ScheduleError ν)
  /-- A line of recorded readings holds no reading. -/
  | badReading (line : Nat)
  /-- A text is no date with a time of day. -/
  | badLocalTime (text : String)
  /-- The house was shut down. -/
  | closed
  /-- Something got into a state that it must not get into. -/
  | fault (f : Fault ν)

/-- An error as a text. -/
def HouseError.message : HouseError Float → String
  | .config (.fault f) => "Config validation failed: " ++ f.message
  | .config e => "Config error: " ++ e.message
  | .unreadableConfig path => "Failed to read config file: " ++ path
  | .unwritableConfig path => "Failed to write config file: " ++ path
  | .unreadableReadings => "I/O error"
  | .unknownZone name => "Zone not found: " ++ name
  | .unknownSource source => "Unknown sensor source: " ++ source
  | .zone e => "Model error: " ++ e.message
  | .filter e => "Filter error: " ++ e.message
  | .schedule e => "Schedule error: " ++ e.message
  | .badReading line => "Invalid input: line " ++ toString line
  | .badLocalTime text => "Invalid input: can't parse '" ++ text ++ "' as a local date and time"
  | .closed => "Runtime is shut down"
  | .fault f => f.message

namespace HouseError

variable {ν α : Type}

/-- A fault of a configuration as an error of the house. -/
def ofCheck : Except (ConfigFault ν) α → Except (HouseError ν) α :=
  Except.mapError fun f => .config (.fault f)

/-- An error of a zone as an error of the house. -/
def ofZone : Except (ZoneError ν) α → Except (HouseError ν) α := Except.mapError .zone

/-- An error of a filter as an error of the house.  A lack of room is a fault. -/
def ofFilter : Except FilterError α → Except (HouseError ν) α :=
  Except.mapError fun
    | .noRoom => .fault .outOfRange
    | e => .filter e

/-- An error of a schedule as an error of the house. -/
def ofSchedule : Except (ScheduleError ν) α → Except (HouseError ν) α := Except.mapError .schedule

/-- A fault as an error of the house. -/
def ofFault : Except (Fault ν) α → Except (HouseError ν) α := Except.mapError .fault

end HouseError

end HomeClimate
