import HomeClimate.Number.Binary
import HomeClimate.Number.Decimal

/-!
# The shortest digits of a double

The numbers that round to a double form an interval around it.  It reaches half
way to each neighbour, and its ends belong to it when the mantissa is even.  The
digits of a double are those of the decimal with the fewest digits in that
interval, and of several the nearest.  Two can be equally near; `Tie` says which
of them is taken.

The search tries one digit, then two, up to seventeen.  With a fixed number of
digits the decimals form a grid, and if a grid point lies in the interval then
one of the two grid points next to the double does.  So two candidates are
tested for each count of digits, in exact arithmetic.

All comparisons are between naturals.  A double `m * 2 ^ q` is scaled by four so
that the ends of the interval are whole too.
-/

namespace HomeClimate

/-- The interval of numbers that round to a double, over a common denominator. -/
structure RoundingInterval where
  /-- The lower end. -/
  low : Nat
  /-- The double itself. -/
  mid : Nat
  /-- The upper end. -/
  high : Nat
  /-- What the three are divided by. -/
  den : Nat
  /-- Whether the ends belong to the interval. -/
  closed : Bool

namespace RoundingInterval

/-- The interval around a finite double that is not zero. -/
def ofBinary (b : Binary) : RoundingInterval :=
  let scale := if b.exponent < 2 then 1 else twoTo (b.exponent - 2).natAbs
  let den := if b.exponent < 2 then twoTo (2 - b.exponent).natAbs else 1
  let down := if b.narrowBelow then 1 else 2
  { low := (4 * b.mantissa - down) * scale, mid := 4 * b.mantissa * scale,
    high := (4 * b.mantissa + 2) * scale, den, closed := b.mantissa % 2 = 0 }

/-- Whether `n / d` lies in the interval. -/
def contains (r : RoundingInterval) (n d : Nat) : Bool :=
  if r.closed then r.low * d ≤ n * r.den && n * r.den ≤ r.high * d
  else r.low * d < n * r.den && n * r.den < r.high * d

/-- The distance of `n / d` from the double, times both denominators. -/
def distance (r : RoundingInterval) (n d : Nat) : Nat :=
  let a := n * r.den
  let b := r.mid * d
  (a - b) + (b - a)

end RoundingInterval

/-- Digits and a power of ten: `digits * 10 ^ exponent`. -/
structure Digits where
  /-- The digits as a number. -/
  digits : Nat
  /-- The power of ten. -/
  exponent : Int
  deriving Repr, DecidableEq, Inhabited

/-- Which of two equally near decimals is taken. -/
inductive Tie where
  /-- The one with an even last digit. -/
  | even
  /-- The greater one. -/
  | up
  deriving Repr, DecidableEq

/-- The one of `n` and `n + 1` that is taken when both are equally near. -/
def Tie.pick (tie : Tie) (n : Nat) : Nat :=
  match tie with
  | .even => if n % 2 = 0 then n else n + 1
  | .up => n + 1

namespace Digits

/-- The point of the grid `10 ^ e` as a fraction. -/
def gridPoint (n : Nat) (e : Int) : Nat × Nat :=
  if e < 0 then (n, tenTo e.natAbs) else (n * tenTo e.natAbs, 1)

/-- The grid point at or below the middle of an interval. -/
def gridFloor (r : RoundingInterval) (e : Int) : Nat :=
  if e < 0 then r.mid * tenTo e.natAbs / r.den else r.mid / (r.den * tenTo e.natAbs)

/-- The better of the two grid points next to the double, if one rounds to it. -/
def candidate? (tie : Tie) (r : RoundingInterval) (e : Int) : Option Nat :=
  let below := gridFloor r e
  let holds := fun n => let p := gridPoint n e; r.contains p.1 p.2
  let far := fun n => let p := gridPoint n e; r.distance p.1 p.2
  match holds below, holds (below + 1) with
  | true, true =>
    if far below < far (below + 1) then some below
    else if far (below + 1) < far below then some (below + 1)
    else some (tie.pick below)
  | true, false => some below
  | false, true => some (below + 1)
  | false, false => none

/-- The power of ten just above a positive fraction: the value is below `10 ^ e`, and not below a
tenth of it. -/
def magnitude (num den : Nat) : Int :=
  let shift : Nat := 340
  (Decimal.digitCount (num * tenTo shift / den) : Int) - shift

/-- The first count of digits that hits the interval, among the counts left to try. -/
def search (tie : Tie) (r : RoundingInterval) (top : Int) : (tries : Nat) → (count : Nat) → Digits
  | 0, count => ⟨gridFloor r (top - count), top - count⟩
  | tries + 1, count =>
    match candidate? tie r (top - count) with
    | some n => ⟨n, top - count⟩
    | none => search tie r top tries (count + 1)

/-- Trailing zeros moved into the power of ten. -/
def trim : (fuel : Nat) → Digits → Digits
  | 0, d => d
  | fuel + 1, d =>
    if d.digits ≠ 0 ∧ d.digits % 10 = 0 then trim fuel ⟨d.digits / 10, d.exponent + 1⟩ else d

/-- The shortest digits that read back as a finite double, without its sign. -/
def shortest (tie : Tie) (b : Binary) : Digits :=
  if b.mantissa = 0 then ⟨0, 0⟩
  else
    let r := RoundingInterval.ofBinary b
    trim 20 (search tie r (magnitude r.mid r.den) 17 1)

end Digits

end HomeClimate
