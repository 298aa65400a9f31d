import HomeClimate.Signal.Basic
import HomeClimate.Zone.Settings

/-!
# Statuses

What a thermostat, an economizer and a zone say about a sample.
-/

namespace HomeClimate

variable {ν : Type} [Scalar ν]

/-- Whether a zone asks the unit to run, and how much. -/
structure CallingStatus (ν : Type) where
  /-- The control signal that this was made of. -/
  sample : Option ν
  /-- How much is asked for. -/
  demand : ν
  /-- Whether anything is asked for. -/
  calling : Bool
  deriving BEq

/-- A zone that asks for nothing. -/
def CallingStatus.idle : CallingStatus ν := ⟨none, 0, false⟩

/-- What an economizer does. -/
structure EconomizerStatus (ν : Type) where
  /-- Its settings. -/
  settings : Option (EconomizerSettings ν)
  /-- The control signal that the verdict was made of. -/
  sample : Option ν
  /-- How much outside air is asked for. -/
  demand : ν
  /-- Whether outside air is asked for. -/
  calling : Bool
  /-- The temperature outside. -/
  ambient : Option ν

/-- What a zone says about a sample. -/
structure ZoneStatus (ν : Type) where
  /-- Its settings. -/
  settings : ZoneSettings ν
  /-- What it asks of the unit. -/
  calling : CallingStatus ν
  /-- What its economizer does, if it has one. -/
  economizer : Option (EconomizerStatus ν)
  /-- The period of the schedule that it is in. -/
  period : Option (PeriodSettings ν)

/-- A zone in one word. -/
inductive ZoneState where
  | error
  | off
  | calling
  | happy
  deriving Repr, DecidableEq

/-- The word. -/
def ZoneState.name : ZoneState → String
  | .error => "ERROR"
  | .off => "OFF"
  | .calling => "CALLING"
  | .happy => "HAPPY"

/-- A status in one word. -/
def ZoneState.of (s : Signal (ZoneStatus ν)) : ZoneState :=
  match s.value? with
  | none => .error
  | some status =>
    if !status.settings.isEnabled then .off
    else if status.calling.calling then .calling
    else .happy

/-- What all zones together ask of the unit. -/
structure UnitDemand (ν : Type) where
  /-- How much is asked for; the sign tells nothing to the unit. -/
  demand : ν
  /-- The fan speed, if it is not left to the unit. -/
  fanSpeed : Option ν
  deriving BEq

end HomeClimate
