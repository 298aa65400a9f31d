import HomeClimate.Number.Binary
import HomeClimate.Number.Decimal

/-!
# Scalars

Every temperature, gain, demand and control signal is a *scalar*.  The control
core is written once over the class `Scalar`, with each operation in the order
in which it is to be rounded, so nothing is reassociated.

Two instances are given.

* `Float`: binary doubles.  This is what runs.
* `Rat`: exact numbers.  Statements that are about arithmetic and not about
  rounding are read here.

The order and the equality of a scalar are those of the number type.  Under
`Float` a number that is not a number is below nothing, above nothing and
different from itself, so a negated comparison is not the opposite comparison.
-/

namespace HomeClimate

/-- The numbers that the control core computes with. -/
class Scalar (ν : Type) extends Zero ν, One ν, Add ν, Sub ν, Mul ν, Div ν, Neg ν, LT ν, LE ν,
    BEq ν where
  /-- Whether one scalar is below another. -/
  decideLt : (x y : ν) → Decidable (x < y)
  /-- Whether one scalar is at most another. -/
  decideLe : (x y : ν) → Decidable (x ≤ y)
  /-- The magnitude. -/
  abs : ν → ν
  /-- Whether this is neither infinite nor missing. -/
  isFinite : ν → Bool
  /-- The scalar nearest to an integer. -/
  ofInt : Int → ν
  /-- The scalar nearest to a decimal number. -/
  ofDecimal : Decimal → ν
  /-- The exact value of a finite scalar. -/
  toRat? : ν → Option Rat

namespace Scalar

variable {ν : Type} [Scalar ν]

instance (x y : ν) : Decidable (x < y) := decideLt x y
instance (x y : ν) : Decidable (x ≤ y) := decideLe x y

/-- Whether this is no number.  Only such a scalar differs from itself. -/
def isNaN (x : ν) : Bool := !(x == x)

/-- The number two. -/
def two : ν := 1 + 1

/-- A scalar written with digits, in the source of this library. -/
def ofDigits (coefficient : Nat) (exponent : Int) : ν :=
  ofDecimal ⟨false, coefficient, exponent⟩

/-- The mean of two scalars: half their sum. -/
def mean (a b : ν) : ν := (a + b) / two

/-- A scalar held between two bounds.  No number stays no number. -/
def clamp (low high x : ν) : ν :=
  if x < low then low else if high < x then high else x

/-- A scalar as a share between nothing and all, where no number counts as nothing. -/
def fraction (x : ν) : ν := if isNaN x then 0 else clamp 0 1 x

/-- The sum of a list, from the left and from zero. -/
def sum (xs : List ν) : ν := xs.foldl (· + ·) 0

end Scalar

/-! ## Doubles -/

/-- The exact value of a finite double. -/
def exactDouble? (x : Float) : Option Rat :=
  match DoubleParts.ofFloat x with
  | .finite b => some b.toRat
  | _ => none

/--
The double nearest to a decimal number.  A coefficient of some digits and an
exponent far outside the doubles are decided by size, so no huge power is built.
-/
def doubleOfDecimal (d : Decimal) : Float :=
  let top : Int := Decimal.digitCount d.coefficient + d.exponent
  let magnitude : Float :=
    if d.coefficient = 0 ∨ top < -400 then 0.0
    else if 400 < top then 1.0 / 0.0
    else Float.ofScientific d.coefficient (decide (d.exponent < 0)) d.exponent.natAbs
  if d.negative then -magnitude else magnitude

/-- The double that a written number denotes. -/
def doubleOfWord : NumberWord → Float
  | .finite d => doubleOfDecimal d
  | .infinite negative => if negative then -(1.0 / 0.0) else 1.0 / 0.0
  | .notANumber _ => 0.0 / 0.0

instance : Scalar Float where
  zero := 0.0
  one := 1.0
  decideLt x y := inferInstanceAs (Decidable (x < y))
  decideLe x y := inferInstanceAs (Decidable (x ≤ y))
  abs := Float.abs
  isFinite := Float.isFinite
  ofInt := Float.ofInt
  ofDecimal := doubleOfDecimal
  toRat? := exactDouble?

/-! ## Exact numbers -/

/-- The exact value of a decimal number. -/
def rationalOfDecimal (d : Decimal) : Rat :=
  let magnitude : Rat :=
    if d.exponent < 0 then mkRat d.coefficient (tenTo d.exponent.natAbs)
    else mkRat (d.coefficient * tenTo d.exponent.natAbs : Nat) 1
  if d.negative then -magnitude else magnitude

instance : Scalar Rat where
  zero := 0
  one := 1
  decideLt x y := inferInstanceAs (Decidable (x < y))
  decideLe x y := inferInstanceAs (Decidable (x ≤ y))
  abs x := if x < 0 then -x else x
  isFinite _ := true
  ofInt n := (n : Rat)
  ofDecimal := rationalOfDecimal
  toRat? := some

end HomeClimate
