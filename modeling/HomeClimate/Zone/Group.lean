import HomeClimate.Zone.Arbiter
import HomeClimate.Zone.Loop

/-!
# Zones under one arbiter

A *group* is a set of zones with the arbiter that hears their statuses.  Whether a
zone could vote is read off the settings that it has when a status arrives.

A *governed zone* is the smallest group that runs: one zone on its queues, every
status of which goes to an arbiter that knows no other zone.
-/

namespace HomeClimate

variable {ν : Type} [Scalar ν]

/-- Zones with the arbiter that hears them. -/
structure ZoneGroup (ν : Type) where
  /-- The zones, by name. -/
  zones : Zones ν
  /-- What makes one demand of all statuses. -/
  arbiter : Arbiter ν

namespace ZoneGroup

/-- The group of a list of zones before the first status. -/
def create (zones : List (Zone ν)) : Except (ZoneError ν) (ZoneGroup ν) := do
  return ⟨← Zones.create zones, .empty⟩

/-- The group with one of its zones changed. -/
def setZone (g : ZoneGroup ν) (z : Zone ν) : ZoneGroup ν :=
  { g with zones := g.zones.modify z.name fun _ => z }

/-- The group after a status, and the demand for the unit. -/
def process (g : ZoneGroup ν) (status : Signal (ZoneStatus ν)) :
    ZoneGroup ν × Option (Signal (UnitDemand ν)) :=
  let (arbiter, demand) := g.arbiter.process g.zones.settings status
  ({ g with arbiter }, demand)

/-- The group after a temperature of one of its zones, the status of that zone, and the demand. -/
def compute (g : ZoneGroup ν) (z : Zone ν) (now : Instant) (sample : Signal ν) :
    Except (Fault ν) (ZoneGroup ν × Signal (ZoneStatus ν) × Option (Signal (UnitDemand ν))) := do
  let (z, status) ← z.compute now sample
  let (g, demand) := (g.setZone z).process status
  return (g, status, demand)

end ZoneGroup

/-! ## One zone that runs -/

/-- A zone that runs, with an arbiter of its own. -/
structure GovernedZone (ν : Type) where
  /-- The zone on its queues. -/
  loop : ZoneLoop ν
  /-- What hears its statuses. -/
  arbiter : Arbiter ν

namespace GovernedZone

/-- A zone for which nothing waits and that has given no status. -/
def start (zone : Zone ν) : GovernedZone ν := ⟨.start zone, .empty⟩

/-- The arbiter after some statuses of a zone, and each of them with its demand. -/
def arbitrateAll (zones : Table String (ZoneSettings ν)) :
    Arbiter ν → List (Signal (ZoneStatus ν)) →
      Arbiter ν × List (Signal (ZoneStatus ν) × Option (Signal (UnitDemand ν)))
  | a, [] => (a, [])
  | a, status :: rest =>
    let (a, demand) := a.process zones status
    let (a, more) := arbitrateAll zones a rest
    (a, (status, demand) :: more)

/-- The zone when nothing waits any more, and its new statuses, each with its demand. -/
def settle (g : GovernedZone ν) (now : Instant) :
    GovernedZone ν × List (Signal (ZoneStatus ν) × Option (Signal (UnitDemand ν))) :=
  let (loop, statuses) := (g.loop.settle now).takeStatuses
  let (arbiter, given) := arbitrateAll [(loop.zone.name, loop.zone.settings)] g.arbiter statuses
  (⟨loop, arbiter⟩, given)

end GovernedZone

end HomeClimate
