import HomeClimate.Schedule.Scheduler

/-!
# The scheduler that runs

A running scheduler fetches its schedules and looks at the clock again and again,
each at an interval of its own and both for the first time at the start.  A fetch
that fails changes nothing.  When both are due the fetch comes first.
-/

namespace HomeClimate

variable {ν : Type} [Scalar ν]

/-- Where schedules are fetched from. -/
structure ScheduleSource (ν : Type) where
  /-- The schedules, by zone. -/
  schedules : Table String (Schedule ν)
  /-- How many fetches still fail. -/
  failures : Nat

/-- A scheduler with its timers. -/
structure SchedulerLoop (ν : Type) where
  /-- The scheduler. -/
  scheduler : Scheduler ν
  /-- Where schedules are fetched from. -/
  source : ScheduleSource ν
  /-- When the next fetch is due. -/
  nextPoll : Span
  /-- When the next look at the clock is due. -/
  nextTick : Span

namespace SchedulerLoop

/-- A scheduler that starts at time zero of its timers. -/
def start (scheduler : Scheduler ν) (source : ScheduleSource ν) : SchedulerLoop ν :=
  ⟨scheduler, source, 0, 0⟩

/-- When something is due next. -/
def nextDue (l : SchedulerLoop ν) : Span := min l.nextPoll l.nextTick

/-- The scheduler after a fetch. -/
def poll (l : SchedulerLoop ν) (zones : Zones ν) (elapsed : Span) (now : Instant) :
    SchedulerLoop ν × Zones ν × List (ScheduleEvent ν) :=
  let l := { l with nextPoll := elapsed + l.scheduler.settings.pollInterval }
  if 0 < l.source.failures then
    ({ l with source := { l.source with failures := l.source.failures - 1 } }, zones, [])
  else
    let (scheduler, zones, events) := l.scheduler.update zones now l.source.schedules
    ({ l with scheduler }, zones, events)

/-- The scheduler after a look at the clock. -/
def tick (l : SchedulerLoop ν) (zones : Zones ν) (elapsed : Span) (now : Instant) :
    SchedulerLoop ν × Zones ν × List (ScheduleEvent ν) :=
  let (scheduler, zones, events) := l.scheduler.tick zones now
  ({ l with scheduler, nextTick := elapsed + l.scheduler.settings.granularity }, zones, events)

/-- The scheduler after what is due at a time. -/
def act (l : SchedulerLoop ν) (zones : Zones ν) (elapsed : Span) (now : Instant) :
    SchedulerLoop ν × Zones ν × List (ScheduleEvent ν) :=
  let (l, zones, fetched) :=
    if l.nextPoll ≤ elapsed then l.poll zones elapsed now else (l, zones, [])
  let (l, zones, looked) :=
    if l.nextTick ≤ elapsed then l.tick zones elapsed now else (l, zones, [])
  (l, zones, fetched ++ looked)

/-- The scheduler as time goes on up to an end, so many times at most. -/
def wait (l : SchedulerLoop ν) (zones : Zones ν) (clock : Span → Instant) (until_ : Span) :
    (times : Nat) → SchedulerLoop ν × Zones ν × List (ScheduleEvent ν)
  | 0 => (l, zones, [])
  | times + 1 =>
    if l.nextDue ≤ until_ then
      let (next, zones, events) := l.act zones l.nextDue (clock l.nextDue)
      let (next, zones, more) := wait next zones clock until_ times
      (next, zones, events ++ more)
    else (l, zones, [])

/-- How many times something can be due between two times of the timers. -/
def timesBetween (l : SchedulerLoop ν) (elapsed until_ : Span) : Nat :=
  (until_ - elapsed) / l.scheduler.settings.granularity +
    (until_ - elapsed) / l.scheduler.settings.pollInterval + 2

end SchedulerLoop

/-! ## A scheduler on its own -/

/-- A running scheduler with its zones and the time of its timers. -/
structure ScheduleRun (ν : Type) where
  /-- The scheduler. -/
  loop : SchedulerLoop ν
  /-- The zones. -/
  zones : Zones ν
  /-- The time of the timers. -/
  elapsed : Span

namespace ScheduleRun

/-- Scheduler and zones some time later, and the events.  The clock shows the start and what has
elapsed. -/
def wait (r : ScheduleRun ν) (clock : Span → Instant) (span : Span) :
    ScheduleRun ν × List (ScheduleEvent ν) :=
  let until_ := r.elapsed + span
  let (loop, zones, events) :=
    r.loop.wait r.zones clock until_ (r.loop.timesBetween r.elapsed until_)
  (⟨loop, zones, until_⟩, events)

end ScheduleRun

end HomeClimate
