import HomeClimate.Signal.Basic
import HomeClimate.Text.Quoted

/-!
# The rate limiter

A signal that says the same as the last one passed on is dropped when it comes
too soon after it.  What "the same" means is a parameter.  A signal that is
earlier than the last one counts as coming at the same time.
-/

namespace HomeClimate

variable {α : Type}

/-- Whether two signals have the same status and the same value. -/
def sameValue [BEq α] (a b : Signal α) : Bool := a.status == b.status && a.value? == b.value?

/-- Whether two signals are attributed to the same source. -/
def sameSource (a b : Signal α) : Bool := a.source == b.source

/-- A filter that drops repetitions. -/
structure RateLimiter (α : Type) where
  /-- How long a repetition is dropped. -/
  interval : Span
  /-- Whether two signals say the same. -/
  same : Signal α → Signal α → Bool
  /-- The last signal that was passed on. -/
  last : Option (Signal α)

namespace RateLimiter

/-- A filter that has passed on nothing. -/
def create (interval : Span) (same : Signal α → Signal α → Bool) : RateLimiter α :=
  ⟨interval, same, none⟩

/-- A filter on the value of signals. -/
def byValue [BEq α] (interval : Span) : RateLimiter α := create interval sameValue

/-- Whether a signal is a repetition that comes too soon. -/
def drops (r : RateLimiter α) (signal : Signal α) : Bool :=
  match r.last with
  | none => false
  | some last => decide (signal.time.spanSince last.time < r.interval) && r.same last signal

/-- The filter after a signal, and the signal if it is passed on. -/
def process (r : RateLimiter α) (signal : Signal α) : RateLimiter α × Option (Signal α) :=
  if r.drops signal then (r, none) else ({ r with last := some signal }, some signal)

/-- The filter as a text: its interval, and whether something was passed on. -/
def text (r : RateLimiter α) : String :=
  Text.showRecord "RateLimiter"
    [("min_interval", r.interval.describe), ("primed", Text.showBool r.last.isSome)]

end RateLimiter

end HomeClimate
