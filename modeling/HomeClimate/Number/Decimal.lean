/-!
# Decimal numbers as written

A *decimal* is a sign, a coefficient and a power of ten.  It is exact: nothing
is rounded before a scalar is made of it.  `Decimal.Written` is the grammar of
a number in a text, and `readWritten?` reads it.

* An optional sign comes first.
* Then digits with at most one point among them, at least one digit in all.
* Then an optional exponent: `e` or `E`, an optional sign, at least one digit.
* Or, in place of the digits, one of the words for infinity and for no number,
  in any case.

The reader looks at the whole text.  Blanks are not skipped and nothing may be
left over.
-/

namespace HomeClimate

/-- An exact decimal number, `coefficient * 10 ^ exponent` with a sign. -/
structure Decimal where
  /-- Whether a minus sign was written.  Zero keeps it. -/
  negative : Bool
  /-- The digits without the point. -/
  coefficient : Nat
  /-- The power of ten that the coefficient is scaled by. -/
  exponent : Int
  deriving Repr, DecidableEq, Inhabited

/-- What a written number can denote. -/
inductive NumberWord where
  /-- A finite number. -/
  | finite (d : Decimal)
  /-- One of the two infinities. -/
  | infinite (negative : Bool)
  /-- No number, with the sign it was written with. -/
  | notANumber (negative : Bool)
  deriving Repr, DecidableEq, Inhabited

namespace Decimal

/-! ## Digits -/

/-- The value of a digit character. -/
def digitValue (c : Char) : Nat := c.toNat - '0'.toNat

/-- A digit string read in base ten, after a number read before it. -/
def digitsValue (start : Nat) (cs : List Char) : Nat :=
  cs.foldl (fun n c => 10 * n + digitValue c) start

/-- The digits at the front of a text, and the text after them. -/
def spanDigits (cs : List Char) : List Char × List Char := cs.span Char.isDigit

/-- An optional sign at the front of a text, and the text after it. -/
def spanSign : List Char → Bool × List Char
  | '-' :: cs => (true, cs)
  | '+' :: cs => (false, cs)
  | cs => (false, cs)

/-! ## Reading a number -/

/-- The exponent after the digits: nothing, or a mark, a sign and digits to the end. -/
def readExponent? : List Char → Option Int
  | [] => some 0
  | c :: cs =>
    if c = 'e' ∨ c = 'E' then
      let (negative, digits) := spanSign cs
      if digits.isEmpty ∨ ¬ digits.all Char.isDigit then none
      else
        let n : Int := digitsValue 0 digits
        some (if negative then -n else n)
    else none

/-- Digits, a point, digits and an exponent, to the end of the text. -/
def readUnsigned? (negative : Bool) (cs : List Char) : Option Decimal :=
  let (whole, rest) := spanDigits cs
  let (fraction, rest) := match rest with
    | '.' :: more => spanDigits more
    | more => ([], more)
  if whole.isEmpty ∧ fraction.isEmpty then none
  else (readExponent? rest).map fun e =>
    { negative, coefficient := digitsValue 0 (whole ++ fraction), exponent := e - fraction.length }

/-- The words that stand for an infinity. -/
def infinityWords : List (List Char) := ["inf".toList, "infinity".toList]

/-- A whole text as a number, or as one of the words. -/
def readWord? (cs : List Char) : Option NumberWord :=
  let (negative, rest) := spanSign cs
  let word := rest.map Char.toLower
  if word ∈ infinityWords then some (.infinite negative)
  else if word = "nan".toList then some (.notANumber negative)
  else (readUnsigned? negative rest).map .finite

/-- The number of digits of a natural number, one for zero. -/
def digitCount (n : Nat) : Nat := (Nat.toDigits 10 n).length

end Decimal

end HomeClimate
