/-!
# Powers of two and of ten

Binary numbers are moved by powers of two and decimal ones by powers of ten.  A
whole number fits a number of bits when it lies between two powers of two.
-/

namespace HomeClimate

/-- A power of two. -/
def twoTo (n : Nat) : Nat := Nat.pow 2 n

/-- A power of ten. -/
def tenTo (n : Nat) : Nat := Nat.pow 10 n

theorem twoTo_pos (n : Nat) : 0 < twoTo n := Nat.pow_pos (by decide)

/-- The least whole number of so many bits with a sign. -/
def leastSigned (bits : Nat) : Int := -(twoTo (bits - 1) : Int)

/-- The greatest whole number of so many bits with a sign. -/
def greatestSigned (bits : Nat) : Int := (twoTo (bits - 1) : Int) - 1

/-- The greatest natural number of so many bits. -/
def greatestNatural (bits : Nat) : Int := (twoTo bits : Int) - 1

/-- Whether a whole number fits so many bits with a sign. -/
def fitsSigned (bits : Nat) (n : Int) : Bool :=
  decide (leastSigned bits ≤ n) && decide (n ≤ greatestSigned bits)

end HomeClimate
