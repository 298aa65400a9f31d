import HomeClimate.Filter.SilenceWatch
import HomeClimate.House.SensorChain

/-!
# Sensor lines

A *sensor line* is a sensor chain that runs: its first three filters stand in a
row with queues between them, and its silence guard has a timer.  A line that was
closed lets out what is in its queues and is then silent for good; its timer does
not go off any more.

What leaves the line goes to a taker, such as a zone.  When the taker has stopped,
the line stops from its end.  The guard stops with the first signal or report that
nobody takes.  Then the last filter stops with the first signal that it gives,
which is lost, and so on up the row.  A line with nothing left of it is *broken*
and takes no reading.
-/

namespace HomeClimate

variable {ν : Type} [Scalar ν]

/-- A sensor chain with its queues and its timer. -/
structure SensorLine (ν : Type) where
  /-- What it measures for. -/
  name : String
  /-- The sources, the best first. -/
  sources : List String
  /-- The filters up to the silence guard that have not stopped. -/
  filters : Pipeline (FilterStage ν) (Signal ν)
  /-- The silence guard with its timer, until it stops. -/
  watch : Option SilenceWatch
  /-- Whether readings may still come. -/
  isOpen : Bool

namespace SensorLine

/-- A chain that starts to run at a time of the timer. -/
def start (c : SensorChain ν) (elapsed : Span) : SensorLine ν :=
  { name := c.name
    sources := c.sources
    filters := .ofStages [.fallback c.fallback, .median c.median, .orderGuard c.order]
    watch := some (.start c.silence elapsed), isOpen := true }

/-- Whether nothing is left of it that could take a reading. -/
def isBroken (l : SensorLine ν) : Bool := l.filters.links.isEmpty

/-- The line with one more reading in its first queue. -/
def feed (l : SensorLine ν) (reading : Signal ν) : SensorLine ν :=
  { l with filters := l.filters.push [reading] }

/-- The line with the next state of its guard, and what is taken of what the guard gave. -/
def give (l : SensorLine ν) (isTaken : Bool) (watch : SilenceWatch) (given : List (Signal ν)) :
    SensorLine ν × List (Signal ν) :=
  if isTaken || given.isEmpty then ({ l with watch := some watch }, given)
  else ({ l with watch := none }, [])

/-- The line when its queues are empty, and what is taken of what came out. -/
def settle (l : SensorLine ν) (isTaken : Bool) (elapsed : Span) :
    SensorLine ν × List (Signal ν) :=
  let (filters, out) := (l.filters.settle FilterStage.process).takeOutput
  match l.watch with
  | some watch =>
    { l with filters }.give isTaken (out.foldl (fun w s => w.arrive elapsed s) watch) out
  | none => ({ l with filters := if out.isEmpty then filters else filters.dropLast }, [])

/-- The line after the last reading. -/
def close (l : SensorLine ν) : SensorLine ν := { l with isOpen := false }

/-- Its guard with a timer that still goes off. -/
def timer? (l : SensorLine ν) : Option SilenceWatch := if l.isOpen then l.watch else none

/-- When its timer goes off next. -/
def due? (l : SensorLine ν) : Option Span := l.timer?.map SilenceWatch.deadline

/-- How many times its timer can go off between two times of it. -/
def timesBetween (l : SensorLine ν) (elapsed until_ : Span) : Nat :=
  (l.watch.map fun w => w.timesBetween elapsed until_).getD 0

/-- The line after its timer went off, if it is due, and the report if there is one and it is
taken. -/
def goOff (l : SensorLine ν) (isTaken : Bool) (elapsed : Span) (now : Instant) :
    SensorLine ν × List (Signal ν) :=
  match l.timer? with
  | none => (l, [])
  | some watch =>
    if watch.deadline ≤ elapsed then
      let (watch, report) := watch.goOff elapsed now
      l.give isTaken watch report.toList
    else (l, [])

end SensorLine

end HomeClimate
