import HomeClimate.Time.Text
import HomeClimate.Zone.Error

/-!
# Errors of schedules

Why a period, the settings of a period, or a schedule cannot be used.
-/

namespace HomeClimate

/-- Why an event title holds no name of a period. -/
inductive TitleFault where
  /-- There is no colon, or nothing before it. -/
  | noColon
  /-- There is nothing before the number sign. -/
  | noName
  deriving Repr, DecidableEq

/-- A fault of a title as a text. -/
def TitleFault.reason : TitleFault → String
  | .noColon => "must be separated by a colon, and not empty"
  | .noName => "empty text before '#'"

/-- Why a part of a schedule cannot be used. -/
inductive ScheduleError (ν : Type) where
  /-- Periods would be looked for all the time. -/
  | noGranularity
  /-- The schedule would be fetched all the time. -/
  | noPollInterval
  /-- More than seven days are marked. -/
  | tooManyDays
  /-- A period has no name. -/
  | emptyName
  /-- The days are not seven characters. -/
  | malformedDays (days : String)
  /-- A period is empty, or the whole day. -/
  | sameStartEnd (time : TimeOfDay)
  /-- A text is no time of day. -/
  | badTime (text : String)
  /-- There is no setpoint, or it is no number. -/
  | missingSetpoint (text : String)
  /-- There is nothing after the word for the setpoint. -/
  | malformedSetpoint (text token : String)
  /-- A dump priority is no number. -/
  | badDumpPriority (token : String)
  /-- A title holds no name of a period. -/
  | badTitle (title : String) (fault : TitleFault)
  /-- A text is not YAML, or not of the settings. -/
  | yaml
  /-- Settings are wrong for a zone. -/
  | zone (e : ZoneError ν)

/-- An error as a text. -/
def ScheduleError.message : ScheduleError Float → String
  | .noGranularity => "Invalid argument: schedule granularity must be positive"
  | .noPollInterval => "Invalid argument: schedule poll interval must be positive"
  | .tooManyDays => "Invalid argument: day mask has seven bits"
  | .emptyName => "Period name can't be empty"
  | .malformedDays days =>
    "Days argument malformed, expected seven characters starting with Monday: '" ++ days ++ "'"
  | .sameStartEnd time => "Start and end time are the same: " ++ time.text
  | .badTime text => "Tried all available formats to parse '" ++ text ++ "' and failed, giving up"
  | .missingSetpoint text => "Could not parse setpoint out of '" ++ text ++ "'"
  | .malformedSetpoint text token =>
    "can't parse '" ++ text ++ "' (malformed setpoint '" ++ token ++ "')"
  | .badDumpPriority token => "Could not parse dump priority out of '" ++ token ++ "'"
  | .badTitle title fault =>
    "Can't parse period name out of event title '" ++ title ++ "' (" ++ fault.reason ++ ")"
  | .yaml => "YAML error"
  | .zone e => e.message

end HomeClimate
