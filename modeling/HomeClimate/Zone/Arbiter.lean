import HomeClimate.Table
import HomeClimate.Zone.Basic

/-!
# The arbiter

The arbiter turns the statuses of all zones into one demand for the unit.  It
keeps the latest status of each zone, and only of the zones that it knows.

A zone that has not failed, is enabled and is calling adds its demand to the
*total*, and if it is voting to the *vote* as well.  The demand is the total,
unless zones that do not vote would act alone or against the vote.

* There is no vote although some zone could vote: the demand is zero.
* Vote and total have the same sign and the total is larger: the total.
* Otherwise: the vote.

Whether a zone could vote is read off its settings of the moment, not off its
last status.
-/

namespace HomeClimate

variable {ν : Type} [Scalar ν]

/-- The demand made of a total, a vote, and the number of zones that could vote. -/
def arbitrate (total vote : ν) (voters : Nat) : ν :=
  if vote == 0 && decide (0 < voters) then 0
  else if decide (0 ≤ vote * total) && decide (Scalar.abs vote < Scalar.abs total) then total
  else vote

/-- The latest statuses of the zones. -/
structure Arbiter (ν : Type) where
  /-- The latest status of each zone, by name. -/
  statuses : Table String (Signal (ZoneStatus ν))
  /-- How many voting zones were calling after the last status. -/
  lastCalling : Nat
  /-- Whether the last status made the unit start. -/
  needsBump : Bool

namespace Arbiter

/-- An arbiter that has seen no status. -/
def empty : Arbiter ν := ⟨[], 0, false⟩

/-- What a status asks for, if it has not failed, is enabled and is calling. -/
def asked? (s : Signal (ZoneStatus ν)) : Option (ZoneStatus ν) :=
  s.value?.filter fun status => status.settings.isEnabled && status.calling.calling

/-- The statuses that ask for something, in the order of the zones. -/
def asking (a : Arbiter ν) : List (ZoneStatus ν) := a.statuses.values.filterMap asked?

/-- Those of them that vote. -/
def votes (a : Arbiter ν) : List (ZoneStatus ν) := a.asking.filter fun s => s.settings.isVoting

/-- The sum of the demands of some statuses. -/
def sumDemand (statuses : List (ZoneStatus ν)) : ν :=
  Scalar.sum (statuses.map fun s => s.calling.demand)

/-- The number of settings under which a zone could vote. -/
def countVoters (settings : List (ZoneSettings ν)) : Nat :=
  (settings.filter fun s => s.isEnabled && s.isVoting).length

/-- The demand for the unit, under the settings that the zones have at the moment. -/
def demand (a : Arbiter ν) (settings : List (ZoneSettings ν)) : ν :=
  arbitrate (sumDemand a.asking) (sumDemand a.votes) (countVoters settings)

/-- The arbiter after a status of a zone that it knows. -/
def record (a : Arbiter ν) (name : String) (status : Signal (ZoneStatus ν)) : Arbiter ν :=
  let next := { a with statuses := a.statuses.insert name status }
  let calling := next.votes.length
  { next with needsBump := a.lastCalling == 0 && decide (0 < calling), lastCalling := calling }

/-- The arbiter after a status, and the demand for the unit.  A status of no zone or of an unknown
one is dropped. -/
def process (a : Arbiter ν) (zones : Table String (ZoneSettings ν))
    (status : Signal (ZoneStatus ν)) : Arbiter ν × Option (Signal (UnitDemand ν)) :=
  match status.source with
  | none => (a, none)
  | some name =>
    if zones.has name then
      let a := a.record name status
      (a, some (.healthy status.time ⟨a.demand zones.values, none⟩))
    else (a, none)

/-- The latest status of each zone in one word. -/
def states (a : Arbiter ν) : Table String ZoneState :=
  a.statuses.map fun e => (e.1, ZoneState.of e.2)

end Arbiter

/-! ## Sets of zones -/

/-- The zones of a house, by name. -/
abbrev Zones (ν : Type) := Table String (Zone ν)

namespace Zones

/-- The zones of a list, each with a name of its own, at least one. -/
def create (zones : List (Zone ν)) : Except (ZoneError ν) (Zones ν) := do
  let table ← zones.foldlM (fun (t : Zones ν) z =>
    if t.has z.name then .error (.duplicateZone z.name) else .ok (t.insert z.name z)) []
  if table.isEmpty then throw .noZones
  return table

/-- The settings that the zones have at the moment. -/
def settings (zones : Zones ν) : Table String (ZoneSettings ν) :=
  zones.map fun e => (e.1, e.2.settings)

end Zones

end HomeClimate
