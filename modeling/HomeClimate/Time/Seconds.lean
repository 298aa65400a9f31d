import HomeClimate.Number.Scalar
import HomeClimate.Time.Span

/-!
# Spans in seconds

Settings give some spans as a scalar number of seconds.  It is rounded to the
nearest nanosecond, a half to the even one.  There is no span for a negative
number, for one that is not finite, and for `2 ^ 64` seconds or more.
-/

namespace HomeClimate

/-- A number of seconds as a span. -/
def Span.ofSeconds? {ν : Type} [Scalar ν] (seconds : ν) : Option Span :=
  match Scalar.toRat? seconds with
  | none => none
  | some q =>
    if q.num < 0 ∨ (twoTo 64 * q.den : Nat) ≤ q.num then none
    else some (divideToEven (q.num.toNat * Span.perSecond) q.den)

end HomeClimate
