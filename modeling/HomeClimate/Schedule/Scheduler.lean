import HomeClimate.Schedule.Period
import HomeClimate.Zone.Arbiter

/-!
# The scheduler

The scheduler sets the periods of zones.  An *update* brings the schedules of
some zones and applies them; a *tick* applies the schedules it has.  To apply a
schedule is to find the period in effect and compare it with the *current* one of
the zone.

* The same as the current one: nothing is done.
* None: the zone's period is cleared.
* Another, and the zone is on hold: the zone remembers the period but keeps its
  settings.  This is not an event, and is done once for each such period.
* Another: the zone's settings are changed.  When the zone rejects them there is
  no current period, so that the next tick tries again.
-/

namespace HomeClimate

variable {ν : Type} [Scalar ν]

/-- The periods of a zone with the settings that they want. -/
abbrev Schedule (ν : Type) := ScheduleOf (ZoneSettings ν)

/-- How often the scheduler acts. -/
structure SchedulerSettings where
  /-- The time between two ticks. -/
  granularity : Span
  /-- The time between two fetches of the schedule. -/
  pollInterval : Span
  deriving Repr, DecidableEq

namespace SchedulerSettings

/-- Ticks of ten seconds, and a fetch every minute. -/
def standard : SchedulerSettings := ⟨Span.seconds 10, Span.seconds 60⟩

/-- Nothing, or what is wrong with the settings. -/
def check (s : SchedulerSettings) : Except (ScheduleError ν) Unit :=
  if s.granularity = 0 then .error .noGranularity
  else if s.pollInterval = 0 then .error .noPollInterval
  else .ok ()

end SchedulerSettings

/-- A change of the period of a zone. -/
structure ScheduleEvent (ν : Type) where
  /-- The zone. -/
  zone : String
  /-- The period that was applied, with its settings; none if there is none. -/
  period : Option (Period × ZoneSettings ν)

/-- An event as a text. -/
def ScheduleEvent.text (e : ScheduleEvent Float) : String :=
  match e.period with
  | some (p, s) => e.zone ++ ": " ++ p.text ++ " " ++ s.text
  | none => e.zone ++ ": no active period"

/-- What the scheduler knows. -/
structure Scheduler (ν : Type) where
  /-- How often it acts. -/
  settings : SchedulerSettings
  /-- The schedules that it has, by zone. -/
  schedules : Table String (Schedule ν)
  /-- The periods that it applied, by zone. -/
  current : Table String Period
  /-- The periods that zones on hold remember, by zone. -/
  held : Table String Period

namespace Scheduler

/-- A scheduler with no schedule. -/
def create (settings : SchedulerSettings) : Except (ScheduleError ν) (Scheduler ν) :=
  settings.check.map fun () => ⟨settings, [], [], []⟩

/-- The scheduler after a zone has no period. -/
def clear (s : Scheduler ν) (name : String) : Scheduler ν :=
  { s with current := s.current.erase name, held := s.held.erase name }

/-- A zone on hold remembers a period.  It keeps its settings, and there is no event. -/
def hold (s : Scheduler ν) (name : String) (z : Zone ν) (p : Period) (wanted : ZoneSettings ν) :
    Scheduler ν × Zone ν :=
  if s.held.get? name == some p then (s, z)
  else
    match z.setPeriod (some ⟨p.name, wanted⟩) with
    | (z, .ok ()) => ({ s with held := s.held.insert name p }, z)
    | (z, .error _) => (s, z)

/-- A zone takes the settings of a period, or rejects them. -/
def enter (s : Scheduler ν) (name : String) (z : Zone ν) (p : Period) (wanted : ZoneSettings ν) :
    Scheduler ν × Zone ν × ScheduleEvent ν :=
  let s := { s with held := s.held.erase name }
  match z.setPeriod (some ⟨p.name, wanted⟩) with
  | (z, .ok ()) => ({ s with current := s.current.insert name p }, z, ⟨name, some (p, wanted)⟩)
  | (z, .error _) => ({ s with current := s.current.erase name }, z, ⟨name, none⟩)

/-- The schedule of a zone applied at a local time. -/
def apply (s : Scheduler ν) (z : Zone ν) (schedule : Schedule ν) (now : Instant) :
    Scheduler ν × Zone ν × Option (ScheduleEvent ν) :=
  let name := z.name
  let found := bestMatch? schedule now
  if s.current.get? name == found.map Prod.fst then (s, z, none)
  else
    match found with
    | none => (s.clear name, (z.setPeriod none).1, some ⟨name, none⟩)
    | some (p, wanted) =>
      if z.settings.isOnHold then
        let (s, z) := s.hold name z p wanted
        (s, z, none)
      else
        let (s, z, e) := s.enter name z p wanted
        (s, z, some e)

/-- The schedule of a zone applied, if the zone is known. -/
def applyNamed (s : Scheduler ν) (zones : Zones ν) (name : String) (schedule : Schedule ν)
    (now : Instant) : Scheduler ν × Zones ν × List (ScheduleEvent ν) :=
  match zones.get? name with
  | none => (s, zones, [])
  | some z =>
    let (s, z, e) := s.apply z schedule now
    (s, zones.modify name fun _ => z, e.toList)

/-- Fresh schedules applied and kept, in the order of the zones.  A zone that is not known is passed
over. -/
def update (s : Scheduler ν) (zones : Zones ν) (now : Instant) :
    Table String (Schedule ν) → Scheduler ν × Zones ν × List (ScheduleEvent ν)
  | [] => (s, zones, [])
  | (name, schedule) :: rest =>
    let (s, zones, events) := s.applyNamed zones name schedule now
    let s := if zones.has name then { s with schedules := s.schedules.insert name schedule } else s
    let (s, zones, more) := s.update zones now rest
    (s, zones, events ++ more)

/-- Schedules applied, in the order of the zones. -/
def applyAll (s : Scheduler ν) (zones : Zones ν) (now : Instant) :
    Table String (Schedule ν) → Scheduler ν × Zones ν × List (ScheduleEvent ν)
  | [] => (s, zones, [])
  | (name, schedule) :: rest =>
    let (s, zones, events) := s.applyNamed zones name schedule now
    let (s, zones, more) := s.applyAll zones now rest
    (s, zones, events ++ more)

/-- The schedules at hand applied at a local time. -/
def tick (s : Scheduler ν) (zones : Zones ν) (now : Instant) :
    Scheduler ν × Zones ν × List (ScheduleEvent ν) := s.applyAll zones now s.schedules

/-- The period that was applied to a zone. -/
def current? (s : Scheduler ν) (zone : String) : Option Period := s.current.get? zone

end Scheduler

/-! ## With zones -/

/-- A scheduler with the zones that it acts on. -/
structure ScheduledZones (ν : Type) where
  /-- The scheduler. -/
  scheduler : Scheduler ν
  /-- The zones. -/
  zones : Zones ν

namespace ScheduledZones

/-- Scheduler and zones after fresh schedules, and the events. -/
def update (s : ScheduledZones ν) (now : Instant) (fresh : Table String (Schedule ν)) :
    ScheduledZones ν × List (ScheduleEvent ν) :=
  let (scheduler, zones, events) := s.scheduler.update s.zones now fresh
  (⟨scheduler, zones⟩, events)

/-- Scheduler and zones after a look at the clock, and the events. -/
def tick (s : ScheduledZones ν) (now : Instant) : ScheduledZones ν × List (ScheduleEvent ν) :=
  let (scheduler, zones, events) := s.scheduler.tick s.zones now
  (⟨scheduler, zones⟩, events)

/-- The zones with one of them replaced. -/
def setZone (s : ScheduledZones ν) (z : Zone ν) : ScheduledZones ν :=
  { s with zones := s.zones.modify z.name fun _ => z }

end ScheduledZones

end HomeClimate
