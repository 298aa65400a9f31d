import HomeClimate.Filter.Fallback
import HomeClimate.Filter.Median
import HomeClimate.Filter.OrderGuard
import HomeClimate.Filter.RateLimiter
import HomeClimate.Filter.SilenceGuard
import HomeClimate.Stream.Pipeline

/-!
# Filters as stages

Every filter takes a signal and gives at most one, so filters can stand in a row.
`FilterStage` is a filter of any kind with its state.

A stage that gets into a state that it must not get into stops: it gives nothing
for that signal and for those after it.
-/

namespace HomeClimate

/-- A filter of some kind. -/
inductive FilterStage (ν : Type) where
  | fallback (f : Fallback ν)
  | median (m : Median ν)
  | medianSet (m : MedianSet ν)
  | rateLimiter (r : RateLimiter ν)
  | silenceGuard (g : SilenceGuard)
  | orderGuard (g : OrderGuard)
  /-- Keeps the signals with a value above a limit. -/
  | above (limit : ν)
  | stopped

namespace FilterStage

variable {ν : Type} [Scalar ν]

/-- Whether a signal has a value above a limit. -/
def exceeds (limit : ν) (signal : Signal ν) : Bool :=
  match signal.value? with
  | some v => decide (limit < v)
  | none => false

/-- The filter after a signal, and what it gives. -/
def process : StageStep (FilterStage ν) (Signal ν)
  | .fallback f, signal => let (f, out) := f.process signal; (.fallback f, out)
  | .median m, signal => let (m, out) := m.process signal; (.median m, some out)
  | .medianSet m, signal =>
    match m.process signal with
    | .ok (m, out) => (.medianSet m, some out)
    | .error _ => (.stopped, none)
  | .rateLimiter r, signal => let (r, out) := r.process signal; (.rateLimiter r, out)
  | .silenceGuard g, signal => let (g, out) := g.process signal; (.silenceGuard g, some out)
  | .orderGuard g, signal => let (g, out) := g.process signal; (.orderGuard g, out)
  | .above limit, signal => (.above limit, if exceeds limit signal then some signal else none)
  | .stopped, _ => (.stopped, none)

end FilterStage

end HomeClimate
