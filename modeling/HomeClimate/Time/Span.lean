import HomeClimate.Number.Power
import HomeClimate.Text.Blank

/-!
# Spans of time

A *span* is a length of time that is not negative, in nanoseconds.  Settings such
as a timeout or an interval are spans.  The difference of two instants can be
negative and is an integer count of nanoseconds; the type does not tell a count
from another integer, so the names do.

A difference has bounds: at most `2 ^ 63 - 1` milliseconds either way.  A span
beyond them cannot be added to an instant at all.
-/

namespace HomeClimate

/-- A length of time in nanoseconds. -/
abbrev Span := Nat

namespace Span

/-- Nanoseconds in a second. -/
def perSecond : Nat := 1000000000

/-- Nanoseconds in a millisecond. -/
def perMilli : Nat := 1000000

/-- A number of whole seconds. -/
def seconds (n : Nat) : Span := n * perSecond

/-- A number of milliseconds. -/
def millis (n : Nat) : Span := n * perMilli

/-- The longest difference of two instants, in nanoseconds. -/
def longestDifference : Nat := (twoTo 63 - 1) * perMilli

/-- The span as a difference of instants, when it is not too long for one. -/
def toDifference? (s : Span) : Option Int := if s ≤ longestDifference then some s else none

/-- The span as a difference of instants, cut to the longest one. -/
def toDifference (s : Span) : Int := (min s longestDifference : Nat)

theorem toDifference_nonneg (s : Span) : 0 ≤ s.toDifference := by
  unfold toDifference; omega

/-- A difference as a span, where a negative one counts as nothing. -/
def ofDifference (d : Int) : Span := d.toNat

/-! ## Text -/

/-- Digits of a fraction with the given number of places, trailing zeros dropped. -/
def fractionDigits (places n : Nat) : List Char :=
  let cs := Nat.toDigits 10 n
  let cs := List.replicate (places - cs.length) '0' ++ cs
  (cs.reverse.dropWhile (· == '0')).reverse

/-- A whole part and a fraction of some places, with a unit. -/
def showUnit (whole fraction places : Nat) (unit : String) : String :=
  let tail := fractionDigits places fraction
  String.ofList (Nat.toDigits 10 whole ++ (if tail.isEmpty then [] else '.' :: tail)) ++ unit

/-- A span in the largest unit of which it has at least one. -/
def describe (s : Span) : String :=
  if perSecond ≤ s then showUnit (s / perSecond) (s % perSecond) 9 "s"
  else if perMilli ≤ s then showUnit (s / perMilli) (s % perMilli) 6 "ms"
  else if 1000 ≤ s then showUnit (s / 1000) (s % 1000) 3 "µs"
  else showUnit s 0 0 "ns"

end Span

end HomeClimate
