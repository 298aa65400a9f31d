import HomeClimate.Control.Fault
import HomeClimate.Filter.SilenceGuard

/-!
# The silence watch

A silence guard with a timer.  The time of the timer is a span since its start and
has nothing to do with the times of signals, which may be late or early.

The timer is set to one timeout after the start, after every signal and after
every time it goes off.  When it goes off the guard reports, or keeps quiet if it
has reported this silence already.
-/

namespace HomeClimate

/-- A guard and the time at which its timer goes off. -/
structure SilenceWatch where
  /-- The guard. -/
  guard : SilenceGuard
  /-- When the timer goes off. -/
  deadline : Span
  deriving Repr, DecidableEq

namespace SilenceWatch

variable {α : Type}

/-- A watch that starts at a time of the timer. -/
def start (guard : SilenceGuard) (elapsed : Span) : SilenceWatch := ⟨guard, elapsed + guard.timeout⟩

/-- The watch after a signal at a time of the timer.  The signal is passed on. -/
def arrive (w : SilenceWatch) (elapsed : Span) (signal : Signal α) : SilenceWatch :=
  start (w.guard.observe signal) elapsed

/-- The watch when its timer goes off while a clock shows an instant, and the report if there is
one. -/
def goOff (w : SilenceWatch) (elapsed : Span) (now : Instant) : SilenceWatch × Option (Signal α) :=
  let (guard, report) := w.guard.expire now
  (start guard elapsed, report)

/-- The watch as time goes on up to an end, and the reports.  The clock shows the start and what has
elapsed.  So many times at most does the timer go off. -/
def wait (w : SilenceWatch) (clock : Span → Instant) (until_ : Span) :
    (times : Nat) → SilenceWatch × List (Signal α)
  | 0 => (w, [])
  | times + 1 =>
    if w.deadline ≤ until_ then
      let (next, report) := w.goOff w.deadline (clock w.deadline)
      let (next, more) := wait next clock until_ times
      (next, report.toList ++ more)
    else (w, [])

/-- How many times the timer can go off between two times of it. -/
def timesBetween (w : SilenceWatch) (elapsed until_ : Span) : Nat :=
  (until_ - elapsed) / w.guard.timeout + 1

end SilenceWatch

/-! ## A watch on its own -/

/-- A watch with the time of its timer, and with somebody or nobody who takes what it gives. -/
structure WatchRun where
  /-- The watch. -/
  watch : SilenceWatch
  /-- The time of the timer. -/
  elapsed : Span
  /-- Whether somebody takes what it gives. -/
  isHeard : Bool
  /-- Whether it still runs. -/
  isRunning : Bool
  deriving Repr, DecidableEq

namespace WatchRun

variable {α : Type}

/-- A watch that starts at time zero.  A timer cannot be set `2 ^ 63` seconds ahead. -/
def start {ν : Type} (guard : SilenceGuard) : Except (Fault ν) WatchRun :=
  if Span.seconds (twoTo 63) ≤ guard.timeout then .error .outOfRange
  else .ok ⟨.start guard 0, 0, true, true⟩

/-- The run after nobody takes what it gives any more. -/
def unhear (r : WatchRun) : WatchRun := { r with isHeard := false }

/-- The run with the next state of its watch, and what is taken of what the watch gave.  It ends
with the first thing that nobody takes. -/
def give (r : WatchRun) (watch : SilenceWatch) (given : List (Signal α)) :
    WatchRun × List (Signal α) :=
  if r.isHeard then ({ r with watch }, given)
  else ({ r with watch, isRunning := given.isEmpty }, [])

/-- The run after a signal, and what is taken. -/
def arrive (r : WatchRun) (signal : Signal α) : WatchRun × List (Signal α) :=
  if r.isRunning then r.give (r.watch.arrive r.elapsed signal) [signal] else (r, [])

/-- The run some time later, and what is taken.  The clock shows the start and what has elapsed. -/
def wait (r : WatchRun) (clock : Span → Instant) (span : Span) : WatchRun × List (Signal α) :=
  let until_ := r.elapsed + span
  let later := { r with elapsed := until_ }
  if r.isRunning then
    let (watch, reports) := r.watch.wait clock until_ (r.watch.timesBetween r.elapsed until_)
    later.give watch reports
  else (later, [])

end WatchRun

end HomeClimate
