import HomeClimate.Number.Power

/-!
# The parts of a double

A double is read off its 64 bits: a sign, eleven bits of exponent and 52 bits of
fraction.  A finite one is `mantissa * 2 ^ exponent` exactly.  Every text of a
number in this library starts here, so no text depends on how the machine prints.
-/

namespace HomeClimate

/-- A finite double as an exact number. -/
structure Binary where
  /-- The sign bit.  Zero has one too. -/
  negative : Bool
  /-- The integer that is scaled. -/
  mantissa : Nat
  /-- The power of two that scales it. -/
  exponent : Int
  /-- Whether the neighbour below is only half as far away as the one above. -/
  narrowBelow : Bool
  deriving Repr, DecidableEq

/-- What a double is. -/
inductive DoubleParts where
  /-- A finite number. -/
  | finite (b : Binary)
  /-- One of the infinities. -/
  | infinite (negative : Bool)
  /-- No number. -/
  | notANumber
  deriving Repr, DecidableEq

namespace DoubleParts

/-- The parts that 64 bits stand for. -/
def ofBits (bits : Nat) : DoubleParts :=
  let negative := decide (bits / twoTo 63 % 2 = 1)
  let biased : Nat := bits / twoTo 52 % twoTo 11
  let fraction : Nat := bits % twoTo 52
  if biased = 2047 then if fraction = 0 then .infinite negative else .notANumber
  else if biased = 0 then
    .finite { negative, mantissa := fraction, exponent := -1074, narrowBelow := false }
  else
    .finite
      { negative, mantissa := twoTo 52 + fraction, exponent := (biased : Int) - 1075,
        narrowBelow := fraction = 0 ∧ 1 < biased }

/-- The parts of a double. -/
def ofFloat (x : Float) : DoubleParts := ofBits x.toBits.toNat

end DoubleParts

namespace Binary

/-- The value as a fraction, numerator and denominator, without the sign. -/
def ratio (b : Binary) : Nat × Nat :=
  if b.exponent < 0 then (b.mantissa, twoTo b.exponent.natAbs)
  else (b.mantissa * twoTo b.exponent.natAbs, 1)

theorem ratio_den_pos (b : Binary) : 0 < b.ratio.2 := by
  unfold ratio
  split
  · exact twoTo_pos _
  · exact Nat.one_pos

/-- The exact value. -/
def toRat (b : Binary) : Rat :=
  let (num, den) := b.ratio
  let magnitude := mkRat num den
  if b.negative then -magnitude else magnitude

end Binary

/-- The quotient rounded to the nearest whole number, a half to the even one. -/
def divideToEven (num den : Nat) : Nat :=
  let q := num / den
  let r := 2 * (num % den)
  if den < r ∨ r = den ∧ q % 2 = 1 then q + 1 else q

end HomeClimate
