import HomeClimate.Control.Fault
import HomeClimate.Number.Scalar
import HomeClimate.Time.TimeOfDay

/-!
# Sliding windows

Two windows over the samples of the last so many seconds, kept sample by sample.

* `SlidingIntegral`: the area under the samples, by trapezes.  Each sample holds
  the area between the sample before it and itself.  When samples leave the
  window, the first one that stays gives up its area, for that began outside.
* `SlidingSlope`: the slope from the oldest sample to the newest.  Two samples
  stay however old they are.

A sample leaves when it is before the start of the window.  If that start is
before the first day of the calendar, none does.
-/

namespace HomeClimate

variable {ν : Type} [Scalar ν]

/-- A sample of a window. -/
abbrev Sample (ν : Type) := Instant × ν

/-- A difference of instants in seconds, by whole microseconds, or by whole milliseconds when
those do not fit 64 bits. -/
def secondsOf (d : Int) : ν :=
  let micros := Int.tdiv d 1000
  if fitsSigned 64 micros then Scalar.ofInt micros / Scalar.ofInt 1000000
  else Scalar.ofInt (Int.tdiv d 1000000) / Scalar.ofInt 1000

/-- The start of a window that ends now, if it is in the calendar. -/
def windowStart? (now : Instant) (span : Span) : Option Instant := now.sub? span.toDifference

/-! ## The integral -/

/-- The area under the samples of a window. -/
structure SlidingIntegral (ν : Type) where
  /-- How long a sample stays. -/
  span : Span
  /-- The samples' times and areas, oldest first. -/
  areas : List (Sample ν)
  /-- The last sample. -/
  last : Option (Sample ν)
  /-- The sum of the areas. -/
  sum : ν

namespace SlidingIntegral

/-- A window with no samples. -/
def empty (span : Span) : SlidingIntegral ν := ⟨span, [], none, 0⟩

/-- The number of samples in the window. -/
def size (w : SlidingIntegral ν) : Nat := w.areas.length

/-- The window without samples. -/
def reset (w : SlidingIntegral ν) : SlidingIntegral ν := empty w.span

/-- The samples that are not before the start, and the sum less the areas that left. -/
def expireFrom (start : Instant) (sum : ν) (front : Sample ν) :
    List (Sample ν) → ν × List (Sample ν)
  | [] => if front.1 < start then (sum, []) else (sum, [front])
  | next :: rest =>
    if front.1 < start then expireFrom start (sum - next.2) (next.1, 0) rest
    else (sum, front :: next :: rest)

/-- The window without the samples that are before its start. -/
def expire (w : SlidingIntegral ν) (now : Instant) : SlidingIntegral ν :=
  match windowStart? now w.span, w.areas with
  | some start, front :: rest =>
    let kept := expireFrom start w.sum front rest
    { w with areas := kept.2, sum := kept.1 }
  | _, _ => w

/-- The area between the last sample and a new one. -/
def areaTo (w : SlidingIntegral ν) (now : Instant) (value : ν) : Except (Fault ν) ν :=
  match w.last with
  | none => .ok 0
  | some (t, v) =>
    if t < now then .ok ((value + v) / Scalar.two * secondsOf (now.since t))
    else .error (.outOfSequence t now)

/-- The window with one more sample, which must be later than the last. -/
def append (w : SlidingIntegral ν) (now : Instant) (value : ν) :
    Except (Fault ν) (SlidingIntegral ν) :=
  (w.areaTo now value).map fun area =>
    expire { w with
      areas := w.areas ++ [(now, area)]
      last := some (now, value)
      sum := w.sum + area } now

end SlidingIntegral

/-! ## The slope -/

/-- The slope over the samples of a window. -/
structure SlidingSlope (ν : Type) where
  /-- How long a sample stays. -/
  span : Span
  /-- The samples, oldest first. -/
  samples : List (Sample ν)

namespace SlidingSlope

/-- A window with no samples. -/
def empty (span : Span) : SlidingSlope ν := ⟨span, []⟩

/-- The window without samples. -/
def reset (w : SlidingSlope ν) : SlidingSlope ν := empty w.span

/-- The samples that are not before the start, but two at least. -/
def expireFrom (start : Instant) : List (Sample ν) → List (Sample ν)
  | a :: b :: c :: rest =>
    if a.1 < start then expireFrom start (b :: c :: rest) else a :: b :: c :: rest
  | samples => samples

/-- The slope from the oldest sample to the newest, zero with fewer than two. -/
def slope (w : SlidingSlope ν) : ν :=
  match w.samples with
  | first :: second :: rest =>
    let last := (second :: rest).getLast (by simp)
    (last.2 - first.2) / secondsOf (last.1.since first.1)
  | _ => 0

/-- The window with one more sample. -/
def append (w : SlidingSlope ν) (now : Instant) (value : ν) : SlidingSlope ν :=
  let samples := w.samples ++ [(now, value)]
  match windowStart? now w.span with
  | some start => { w with samples := expireFrom start samples }
  | none => { w with samples }

end SlidingSlope

end HomeClimate
