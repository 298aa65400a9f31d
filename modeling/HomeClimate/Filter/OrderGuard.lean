import HomeClimate.Signal.Basic

/-!
# The order guard

Sources are independent, so a reading can arrive late.  The guard drops a reading
with a value that is not later than the last one it passed on.  A failure has no
value and is always passed on.
-/

namespace HomeClimate

/-- A filter that keeps readings in order. -/
structure OrderGuard where
  /-- The time of the last reading with a value. -/
  last : Option Instant
  deriving Repr, DecidableEq

namespace OrderGuard

variable {α : Type}

/-- A filter that has seen nothing. -/
def create : OrderGuard := ⟨none⟩

/-- Whether a reading comes too late. -/
def drops (g : OrderGuard) (time : Instant) : Bool :=
  match g.last with
  | none => false
  | some last => decide (time ≤ last)

/-- The filter after a signal, and the signal if it is passed on. -/
def process (g : OrderGuard) (signal : Signal α) : OrderGuard × Option (Signal α) :=
  if signal.isFailed then (g, some signal)
  else if g.drops signal.time then (g, none)
  else (⟨some signal.time⟩, some signal)

end OrderGuard

end HomeClimate
