import HomeClimate.Control.Fault
import HomeClimate.Filter.Error
import HomeClimate.Number.Power
import HomeClimate.Number.Scalar
import HomeClimate.Signal.Basic

/-!
# Medians

Several signals are reduced to one: its value is the median of their values, and
its error is the latest of theirs.

* `Median` reduces the last so many signals.  A failure takes a place among them.
* `MedianSet` reduces the last signal of each source, those that are not too old.
  With a single source a signal is passed on as it is.

The middle two values of an even count are averaged, the smaller one first.
-/

namespace HomeClimate

variable {ν : Type} [Scalar ν]

/-! ## Reducing signals -/

/-- Values in ascending order; values that do not differ keep their order. -/
def ascending (values : List ν) : List ν := values.mergeSort fun a b => !decide (b < a)

/-- The middle of a list, or the average of the two middle ones. -/
def middle? (average : ν → ν → ν) (values : List ν) : Option ν :=
  let n := values.length
  match values[n / 2]? with
  | none => none
  | some upper =>
    if n % 2 = 1 then some upper
    else (values[n / 2 - 1]?).map fun lower => average lower upper

/-- The error with the greatest time, the last of several. -/
def latestError? (signals : List (Signal ν)) : Option (Instant × SignalError) :=
  signals.foldl (fun found s =>
    match s.error?, found with
    | none, _ => found
    | some e, none => some (s.time, e)
    | some e, some (t, f) => if s.time < t then some (t, f) else some (s.time, e)) none

/-- A median and an error as the health of a signal. -/
def reducedHealth (value : Option ν) (error : Option SignalError) : Health ν :=
  match value, error with
  | some v, none => .ok v
  | some v, some e => .partialFailure v e
  | none, e => .totalFailure (e.getD (.missing "median input"))

/-- Signals reduced to one. -/
def reduce (average : ν → ν → ν) (signals : List (Signal ν)) : Health ν :=
  reducedHealth (middle? average (ascending (signals.filterMap Signal.value?)))
    ((latestError? signals).map Prod.snd)

/-! ## Over time -/

/-- The median over the last signals. -/
structure Median (ν : Type) where
  /-- How many signals count. -/
  depth : Nat
  /-- The average of two values. -/
  average : ν → ν → ν
  /-- The signals that count, oldest first. -/
  buffer : List (Signal ν)

namespace Median

/-- The greatest number of signals that there can be room for.  A signal takes 104 octets, and there
are less than `2 ^ 63` of them. -/
def roomLimit : Nat := (twoTo 63 - 1) / 104

/-- A median over so many signals, at least one and no more than there can be room for. -/
def create (depth : Nat) (average : ν → ν → ν) : Except FilterError (Median ν) :=
  if depth < 1 then .error .noDepth
  else if roomLimit < depth then .error .noRoom
  else .ok ⟨depth, average, []⟩

/-- The number of signals in the buffer. -/
def size (m : Median ν) : Nat := m.buffer.length

/-- The filter after a signal, and the reduced signal. -/
def process (m : Median ν) (signal : Signal ν) : Median ν × Signal ν :=
  let kept := if m.buffer.length = m.depth then m.buffer.drop 1 else m.buffer
  let buffer := kept ++ [signal]
  ({ m with buffer }, { signal with health := reduce m.average buffer })

end Median

/-! ## Over sources -/

/-- The median over the last signals of several sources. -/
structure MedianSet (ν : Type) where
  /-- The average of two values. -/
  average : ν → ν → ν
  /-- How old a signal may be, zero for any age. -/
  maxAge : Span
  /-- The last signal of each source; no source counts as one. -/
  latest : List (Option String × Signal ν)

namespace MedianSet

/-- A filter that has seen nothing. -/
def create (average : ν → ν → ν) (maxAge : Span) : MedianSet ν := ⟨average, maxAge, []⟩

/-- The number of sources with a signal. -/
def size (m : MedianSet ν) : Nat := m.latest.length

/-- The filter without the signals that are too old at a time.  A span too long for a difference
of times lets none get too old, and a time too early for it is a fault. -/
def expire (m : MedianSet ν) (now : Instant) : Except (Fault ν) (MedianSet ν) :=
  if m.maxAge = 0 then .ok m
  else
    match m.maxAge.toDifference? with
    | none => .ok m
    | some age =>
      match now.sub? age with
      | none => .error .outOfRange
      | some retire => .ok { m with latest := m.latest.filter fun e => decide (retire ≤ e.2.time) }

/-- The filter with the last signal of a source replaced. -/
def store (m : MedianSet ν) (signal : Signal ν) : MedianSet ν :=
  if m.latest.any fun e => e.1 == signal.source then
    { m with latest := m.latest.map fun e => if e.1 == signal.source then (e.1, signal) else e }
  else { m with latest := m.latest ++ [(signal.source, signal)] }

/-- The filter after a signal, and what comes out. -/
def process (m : MedianSet ν) (signal : Signal ν) : Except (Fault ν) (MedianSet ν × Signal ν) :=
  (m.expire signal.time).map fun m =>
    let m := m.store signal
    if m.size < 2 then (m, signal)
    else (m, { signal with health := reduce m.average (m.latest.map Prod.snd) })

end MedianSet

end HomeClimate
