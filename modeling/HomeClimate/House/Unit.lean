import HomeClimate.Config.Basic
import HomeClimate.Filter.RateLimiter
import HomeClimate.Zone.Arbiter

/-!
# The unit

All zones share one unit.  A status of a zone becomes a demand by way of the
arbiter.  A demand that repeats the last one is held back for a while.  What is
left becomes a command.

A positive demand asks for cooling and a negative one for heating.  A unit acts
on what its mode can do, up to its full power, and is off otherwise.  The fan runs
whenever the unit does, unless its speed is asked for.
-/

namespace HomeClimate

variable {ν : Type} [Scalar ν]

/-- A demand as a unit of a mode sees it: positive if it can act on it. -/
def demandFor (mode : Mode) (demand : ν) : ν :=
  match mode with
  | .cooling => demand
  | .heating => -demand

/-- The fan speed of a unit that runs at a share of its power. -/
def fanSpeedFor (power : ν) : ν := if 0 < power then 1 else 0

/-- The command for a demand.  A demand that has failed turns the unit off. -/
def unitCommand (mode : Mode) (demand : Signal (UnitDemand ν)) : Command ν :=
  match demand.value? with
  | none => .off (some mode)
  | some asked =>
    let power := Scalar.fraction (demandFor mode asked.demand)
    ⟨some mode, power, Scalar.fraction (asked.fanSpeed.getD (fanSpeedFor power))⟩

/-- What stands between the statuses of the zones and the unit. -/
structure UnitControl (ν : Type) where
  /-- What the unit does to the air. -/
  mode : Mode
  /-- What makes one demand of all statuses. -/
  arbiter : Arbiter ν
  /-- What holds repeated demands back. -/
  limiter : RateLimiter (UnitDemand ν)

namespace UnitControl

/-- The control of a unit before the first status. -/
def ofConfig (unit : UnitConfig) : UnitControl ν :=
  ⟨unit.mode, .empty, .byValue (Span.millis unit.rateLimitMillis)⟩

/-- The control after a status, and the demand that the unit gets, under the settings that the zones
have at the moment. -/
def process (u : UnitControl ν) (zones : Table String (ZoneSettings ν))
    (status : Signal (ZoneStatus ν)) : UnitControl ν × Option (Signal (UnitDemand ν)) :=
  match u.arbiter.process zones status with
  | (arbiter, none) => ({ u with arbiter }, none)
  | (arbiter, some demand) =>
    let (limiter, passed) := u.limiter.process demand
    ({ u with arbiter, limiter }, passed)

/-- The last status of each zone in one word. -/
def states (u : UnitControl ν) : Table String ZoneState := u.arbiter.states

end UnitControl

end HomeClimate
