import HomeClimate.Number.Layout
import HomeClimate.Number.Scalar
import HomeClimate.Text.Quoted

/-!
# Zone settings

The settings of a zone are sparse: a field that is not set says nothing.  An
update carries the fields that are to change, and `merge` lays it over the
settings before it.  Flags that are not set count as enabled, voting, and not on
hold.

The hold flag is about the schedule, and the dump priority is about a feature of
the unit, so `same`, which compares what a user sees, leaves both out.
-/

namespace HomeClimate

variable {ν : Type} [Scalar ν]

/-! ## The economizer's settings -/

/-- When outside air is to be used. -/
structure EconomizerSettings (ν : Type) where
  /-- Whether it is used at all. -/
  enabled : Option Bool
  /-- How much better the outside air must be. -/
  changeoverDelta : ν
  /-- The temperature inside at which to stop. -/
  target : ν
  /-- Whether the unit keeps running meanwhile. -/
  keepsHvacOn : Bool
  /-- The share of its power that the device runs at. -/
  maxPower : ν
  deriving BEq

/-- What is wrong with the settings of an economizer. -/
inductive EconomizerSettingsError where
  | negativeDelta
  | infiniteTarget
  | powerOutOfRange
  deriving Repr, DecidableEq

/-- An error as a text. -/
def EconomizerSettingsError.what : EconomizerSettingsError → String
  | .negativeDelta => "changeover delta must be non-negative"
  | .infiniteTarget => "target temperature must be finite"
  | .powerOutOfRange => "max power must be within 0..1"

namespace EconomizerSettings

/-- Settings that are enabled, with full power. -/
def ofTarget (changeoverDelta target : ν) : EconomizerSettings ν :=
  ⟨some true, changeoverDelta, target, false, 1⟩

/-- Whether outside air is used at all. -/
def isEnabled (s : EconomizerSettings ν) : Bool := s.enabled.getD true

/-- Nothing, or what is wrong with the settings. -/
def check (s : EconomizerSettings ν) : Except EconomizerSettingsError Unit :=
  if !Scalar.isFinite s.changeoverDelta || decide (s.changeoverDelta < 0) then .error .negativeDelta
  else if !Scalar.isFinite s.target then .error .infiniteTarget
  else if !(decide (0 ≤ s.maxPower) && decide (s.maxPower ≤ 1)) then .error .powerOutOfRange
  else .ok ()

/-- The settings as a text. -/
def text (s : EconomizerSettings Float) : String :=
  let number := NumberLayout.precise.write
  Text.showRecord "EconomizerSettings"
    [("enabled", Text.showOption Text.showBool s.enabled),
     ("changeover_delta", number s.changeoverDelta), ("target_temperature", number s.target),
     ("keep_hvac_on", Text.showBool s.keepsHvacOn), ("max_power", number s.maxPower)]

end EconomizerSettings

/-! ## The zone's settings -/

/-- What a user or a schedule wants of a zone. -/
structure ZoneSettings (ν : Type) where
  /-- Whether the zone is conditioned. -/
  enabled : Option Bool := none
  /-- The temperature that it is to have. -/
  setpoint : Option ν := none
  /-- Whether it may start the unit. -/
  voting : Option Bool := none
  /-- Whether the schedule leaves it alone. -/
  hold : Option Bool := none
  /-- Its place among zones that take surplus air. -/
  dumpPriority : Option Int := none
  /-- When outside air is to be used. -/
  economizer : Option (EconomizerSettings ν) := none
  deriving BEq

namespace ZoneSettings

/-- Every flag set to its default, around a setpoint. -/
def ofSetpoint (setpoint : ν) : ZoneSettings ν :=
  { enabled := some true, setpoint := some setpoint, voting := some true, hold := some false,
    dumpPriority := some 0 }

/-- The settings with an update laid over them: each field that the update sets wins. -/
def merge (s update : ZoneSettings ν) : ZoneSettings ν :=
  { enabled := update.enabled.or s.enabled
    setpoint := update.setpoint.or s.setpoint
    voting := update.voting.or s.voting
    hold := update.hold.or s.hold
    dumpPriority := update.dumpPriority.or s.dumpPriority
    economizer := update.economizer.or s.economizer }

/-- Whether the zone is conditioned. -/
def isEnabled (s : ZoneSettings ν) : Bool := s.enabled.getD true

/-- Whether the zone may start the unit. -/
def isVoting (s : ZoneSettings ν) : Bool := s.voting.getD true

/-- Whether the schedule leaves the zone alone. -/
def isOnHold (s : ZoneSettings ν) : Bool := s.hold.getD false

/-- The place of the zone among those that take surplus air. -/
def priority (s : ZoneSettings ν) : Int := s.dumpPriority.getD 0

/-- Whether a user would see no difference. -/
def same (a b : ZoneSettings ν) : Bool :=
  a.enabled == b.enabled && a.setpoint == b.setpoint && a.voting == b.voting &&
    a.economizer == b.economizer

/-- The settings as a text. -/
def text (s : ZoneSettings Float) : String :=
  let flag := Text.showOption Text.showBool
  "\x7benabled=" ++ flag s.enabled ++ ", setpoint=" ++
    Text.showOption NumberLayout.precise.write s.setpoint ++ ", voting=" ++ flag s.voting ++
    ", hold=" ++ flag s.hold ++ ", dump=" ++ Text.showOption toString s.dumpPriority ++
    ", economizer=" ++ Text.showOption EconomizerSettings.text s.economizer ++ "\x7d"

end ZoneSettings

/-- The settings that a period of the schedule wants, with the name of the period. -/
structure PeriodSettings (ν : Type) where
  /-- The name of the period. -/
  period : String
  /-- What it wants. -/
  settings : ZoneSettings ν
  deriving BEq

end HomeClimate
