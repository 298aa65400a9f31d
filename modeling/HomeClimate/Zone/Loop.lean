import HomeClimate.Zone.Basic

/-!
# Zones that run

A zone runs on two queues, one of temperatures inside and one of readings outside,
and on its stored wake-up.  It gives a status for every temperature, and one for
the wake-up when there is a verdict to show again.  Several changes of the settings
before it looks are one wake-up.

A status is made first (`answerSample`, `answerWakeUp`) and then given.  The steps
`takeSample` and `takeWakeUp`, which do both, and `takeReading` can come in any
order.  The queue of readings is served apart from the zone's own work and goes on
when that has stopped.  A fault stops the one of the two that meets it, and the zone
stays as the fault left it.
-/

namespace HomeClimate

variable {ν : Type} [Scalar ν]

/-- The zone after it looked at a change of its settings, and its status if there is one. -/
def Zone.answerWakeUp (z : Zone ν) : Zone ν × Option (Signal (ZoneStatus ν)) :=
  if z.wakeUp then ({ z with wakeUp := false }, z.replay?) else (z, none)

/-- A zone with what waits for it and what it gave. -/
structure ZoneLoop (ν : Type) where
  /-- The zone. -/
  zone : Zone ν
  /-- The temperatures that wait, the oldest first. -/
  samples : List (Signal ν)
  /-- The readings outside that wait, the oldest first. -/
  readings : List (Signal ν)
  /-- The statuses that were given and not taken, the oldest first. -/
  statuses : List (Signal (ZoneStatus ν))
  /-- Whether the zone still looks at temperatures and wake-ups. -/
  isRunning : Bool
  /-- Whether the readings outside are still looked at. -/
  readsAmbient : Bool

namespace ZoneLoop

/-- A zone for which nothing waits. -/
def start (zone : Zone ν) : ZoneLoop ν := ⟨zone, [], [], [], true, true⟩

/-- The loop with one more status. -/
def give (l : ZoneLoop ν) (status : Option (Signal (ZoneStatus ν))) : ZoneLoop ν :=
  { l with statuses := l.statuses ++ status.toList }

/-- The loop after the zone looked at one temperature, and the status that it made.  A fault ends
it. -/
def answerSample (l : ZoneLoop ν) (now : Instant) : ZoneLoop ν × Option (Signal (ZoneStatus ν)) :=
  match l.samples with
  | [] => (l, none)
  | sample :: rest =>
    if l.isRunning then
      match l.zone.attempt now sample with
      | (zone, .ok status) => ({ l with zone, samples := rest }, some status)
      | (zone, .error _) => ({ l with zone, samples := [], isRunning := false }, none)
    else ({ l with samples := rest }, none)

/-- The loop after the zone looked at its wake-up, and the status that it made, if it made one. -/
def answerWakeUp (l : ZoneLoop ν) : ZoneLoop ν × Option (Signal (ZoneStatus ν)) :=
  if l.isRunning then
    let (zone, status) := l.zone.answerWakeUp
    ({ l with zone }, status)
  else (l, none)

/-- The loop after the zone took one temperature and gave its status. -/
def takeSample (l : ZoneLoop ν) (now : Instant) : ZoneLoop ν :=
  let (l, status) := l.answerSample now
  l.give status

/-- The loop after the zone took its wake-up and gave its status. -/
def takeWakeUp (l : ZoneLoop ν) : ZoneLoop ν :=
  let (l, status) := l.answerWakeUp
  l.give status

/-- The loop after one reading outside was taken.  A fault ends this part of it. -/
def takeReading (l : ZoneLoop ν) (now : Instant) : ZoneLoop ν :=
  match l.readings with
  | [] => l
  | reading :: rest =>
    if l.readsAmbient then
      match l.zone.recordAmbient now reading with
      | (zone, .ok ()) => { l with zone, readings := rest }
      | (zone, .error _) => { l with zone, readings := [], readsAmbient := false }
    else { l with readings := rest }

/-- The loop after so many steps of one kind. -/
def repeated (step : ZoneLoop ν → ZoneLoop ν) : Nat → ZoneLoop ν → ZoneLoop ν
  | 0, l => l
  | n + 1, l => repeated step n (step l)

/-- The loop when nothing waits any more. -/
def settle (l : ZoneLoop ν) (now : Instant) : ZoneLoop ν :=
  let l := repeated (takeReading · now) l.readings.length l
  let l := repeated (takeSample · now) l.samples.length l
  l.takeWakeUp

/-- The loop with its statuses taken away, and the statuses. -/
def takeStatuses (l : ZoneLoop ν) : ZoneLoop ν × List (Signal (ZoneStatus ν)) :=
  ({ l with statuses := [] }, l.statuses)

end ZoneLoop

end HomeClimate
