import HomeClimate.Number.Scalar
import Mathlib.Data.Rat.Lemmas
import Mathlib.Tactic.Positivity

/-!
# What settings rely on of scalars

A setting that was found to be right is used by parts that look at it again, so what
was found must be good for what they look at.  `LawfulScalar` says what this takes:

* a few numbers that are written in the source are finite and on their side of zero,
* what lies between finite numbers is finite,
* a finite number above zero has an exact value, which is above zero.

Exact numbers are lawful at once.  For doubles the last two are read off the parts of
a double, of which there are two accounts: that of the comparisons (`unpack`) and that
of the exact value (`DoubleParts.ofBits`).  They read the same bits.
-/

namespace HomeClimate

/-- A scalar that settings can rely on. -/
class LawfulScalar (ν : Type) [Scalar ν] : Prop where
  isFinite_zero : Scalar.isFinite (0 : ν) = true
  isFinite_one : Scalar.isFinite (1 : ν) = true
  isFinite_neg_one : Scalar.isFinite (-1 : ν) = true
  not_zero_le_neg_one : ¬ (0 : ν) ≤ -1
  not_one_le_zero : ¬ (1 : ν) ≤ 0
  one_beq_zero : ((1 : ν) == 0) = false
  /-- Four thousandths, the usual integral gain of an economizer. -/
  isFinite_usualGain : Scalar.isFinite (Scalar.ofDigits 4 (-3) : ν) = true
  /-- One and a tenth, the usual limit of an economizer. -/
  isFinite_usualLimit : Scalar.isFinite (Scalar.ofDigits 11 (-1) : ν) = true
  not_usualLimit_lt_zero : ¬ (Scalar.ofDigits 11 (-1) : ν) < 0
  isFinite_of_between {low high x : ν} : Scalar.isFinite low = true → Scalar.isFinite high = true →
    low ≤ x → x ≤ high → Scalar.isFinite x = true
  exists_toRat? {x : ν} : Scalar.isFinite x = true → ¬ x ≤ 0 →
    ∃ q, Scalar.toRat? x = some q ∧ 0 < q

/-! ## Exact numbers -/

instance : LawfulScalar Rat where
  isFinite_zero := rfl
  isFinite_one := rfl
  isFinite_neg_one := rfl
  not_zero_le_neg_one := by decide
  not_one_le_zero := by decide
  one_beq_zero := by decide
  isFinite_usualGain := rfl
  isFinite_usualLimit := rfl
  not_usualLimit_lt_zero := by decide +kernel
  isFinite_of_between _ _ _ _ := rfl
  exists_toRat? {x} _ hx := ⟨x, rfl, not_le.mp hx⟩

/-! ## Doubles -/

namespace Double

open Float.Model (UnpackedFloat)
open Float.Model.UnpackedFloat (Sign unpackMantissa unpackExponent unpackSign)

theorem le_iff (x y : Float) : x ≤ y ↔ x.toModel.unpack.le y.toModel.unpack = true := by
  change x.le y = true ↔ _
  rw [Float.le, decide_eq_true_iff]
  rfl

/-- No infinity and no missing number lies between finite doubles. -/
theorem isFinite_of_between {low high x : Float} (hlow : low.isFinite = true)
    (hhigh : high.isFinite = true) (hle : low ≤ x) (hle' : x ≤ high) : x.isFinite = true := by
  change low.toModel.unpack.isFinite = true at hlow
  change high.toModel.unpack.isFinite = true at hhigh
  change x.toModel.unpack.isFinite = true
  rw [le_iff] at hle hle'
  generalize low.toModel.unpack = a at hlow hle
  generalize high.toModel.unpack = b at hhigh hle'
  generalize x.toModel.unpack = u at hle hle' ⊢
  cases u with
  | zero s => rfl
  | finite s m e hm => rfl
  | notANumber => cases a <;> cases hle
  | infinity s =>
      cases s with
      | positive =>
          cases b with
          | infinity _ => cases hhigh
          | notANumber => cases hhigh
          | zero _ => cases hle'
          | finite _ _ _ _ => cases hle'
      | negative =>
          cases a with
          | infinity _ => cases hlow
          | notANumber => cases hlow
          | zero _ => cases hle
          | finite _ _ _ _ => cases hle

/-- A finite double that is not at most zero is one of the positive numbers. -/
theorem unpack_of_not_le_zero {x : Float} (hfinite : x.isFinite = true) (hx : ¬ x ≤ 0) :
    ∃ m e hm, x.toModel.unpack = .finite .positive m e hm := by
  change x.toModel.unpack.isFinite = true at hfinite
  have hzero : (0 : Float).toModel.unpack = .zero .positive := rfl
  rw [le_iff, hzero] at hx
  generalize x.toModel.unpack = u at hfinite hx
  cases u with
  | infinity s => cases hfinite
  | notANumber => cases hfinite
  | zero s => exact absurd rfl hx
  | finite s m e hm =>
      cases s with
      | positive => exact ⟨m, e, hm, rfl⟩
      | negative => exact absurd rfl hx

theorem toNat_unpackMantissa (b : BitVec 64) :
    (@unpackMantissa Float.Model.Format.binary64 b).toNat = b.toNat % twoTo 52 := by
  change (BitVec.cast _ (b.extractLsb 51 0)).toNat = _
  simp [twoTo]

theorem toNat_unpackExponent (b : BitVec 64) :
    (@unpackExponent Float.Model.Format.binary64 b).toNat =
      b.toNat / twoTo 52 % twoTo 11 := by
  change (BitVec.cast _ (b.extractLsb 62 52)).toNat = _
  simp [Nat.shiftRight_eq_div_pow, twoTo]

theorem toNat_unpackSign (b : BitVec 64) :
    (@unpackSign Float.Model.Format.binary64 b).toNat = b.toNat / twoTo 63 % 2 := by
  change (BitVec.cast _ (b.extractLsb 63 63)).toNat = _
  simp [Nat.shiftRight_eq_div_pow, twoTo]

theorem toNat_of_positive {c : BitVec 1} (h : Sign.ofBitVec c = .positive) : c.toNat = 0 := by
  rw [Sign.ofBitVec] at h
  split at h
  · rename_i hzero
    rw [hzero]
    rfl
  · cases h

/-- The sign, the exponent and the fraction of a positive number, as bits. -/
structure IsPositive (bits : Nat) : Prop where
  sign : bits / twoTo 63 % 2 = 0
  finite : bits / twoTo 52 % twoTo 11 ≠ 2047
  nonzero : bits / twoTo 52 % twoTo 11 = 0 → bits % twoTo 52 ≠ 0

theorem isPositive_of_unpack {x : Float} {m : Nat} {e : Int} {hm : 0 < m}
    (h : x.toModel.unpack = .finite .positive m e hm) : IsPositive x.toBits.toNat := by
  change Float.Model.UnpackedFloat.unpack Float.Model.Format.binary64 x.toBits.toBitVec = _ at h
  rw [← UInt64.toNat_toBitVec]
  generalize x.toBits.toBitVec = b at h ⊢
  delta Float.Model.UnpackedFloat.unpack at h
  dsimp only at h
  by_cases hexponent : @unpackExponent Float.Model.Format.binary64 b = -1#11
  · rw [if_pos hexponent] at h
    by_cases hmantissa : @unpackMantissa Float.Model.Format.binary64 b = 0#52
    · rw [if_pos hmantissa] at h
      cases h
    · rw [if_neg hmantissa] at h
      cases h
  rw [if_neg hexponent] at h
  have hfinite : b.toNat / twoTo 52 % twoTo 11 ≠ 2047 := by
    rw [← toNat_unpackExponent]
    exact fun heq => hexponent (BitVec.eq_of_toNat_eq heq)
  by_cases hsubnormal : @unpackExponent Float.Model.Format.binary64 b = 0#11
  · rw [if_pos hsubnormal] at h
    by_cases hmantissa : @unpackMantissa Float.Model.Format.binary64 b = 0#52
    · rw [dif_pos hmantissa] at h
      cases h
    · rw [dif_neg hmantissa] at h
      refine ⟨?_, hfinite, fun _ => ?_⟩
      · rw [← toNat_unpackSign]
        exact toNat_of_positive (UnpackedFloat.finite.inj h).1
      · rw [← toNat_unpackMantissa]
        exact fun heq => hmantissa (BitVec.eq_of_toNat_eq heq)
  · rw [if_neg hsubnormal] at h
    refine ⟨?_, hfinite, fun hzero => ?_⟩
    · rw [← toNat_unpackSign]
      exact toNat_of_positive (UnpackedFloat.finite.inj h).1
    · rw [← toNat_unpackExponent] at hzero
      exact absurd (BitVec.eq_of_toNat_eq hzero) hsubnormal

/-- The parts of a positive number: its mantissa is not zero, and there is no sign. -/
theorem parts_of_isPositive {bits : Nat} (h : IsPositive bits) :
    ∃ b, DoubleParts.ofBits bits = .finite b ∧ b.negative = false ∧ 0 < b.mantissa := by
  have hsign : decide (bits / twoTo 63 % 2 = 1) = false := by
    rw [h.sign]
    rfl
  rw [DoubleParts.ofBits, if_neg h.finite]
  split
  · rename_i hzero
    exact ⟨_, rfl, hsign, Nat.pos_of_ne_zero (h.nonzero hzero)⟩
  · exact ⟨_, rfl, hsign, Nat.add_pos_left (twoTo_pos 52) _⟩

theorem toRat_pos {b : Binary} (hsign : b.negative = false) (hm : 0 < b.mantissa) :
    0 < b.toRat := by
  have hnum : 0 < b.ratio.1 := by
    rw [Binary.ratio]
    split
    · exact hm
    · exact Nat.mul_pos hm (twoTo_pos _)
  have hden : 0 < b.ratio.2 := b.ratio_den_pos
  rw [Binary.toRat]
  dsimp only
  rw [hsign, if_neg (by decide), Rat.mkRat_eq_div]
  positivity

theorem exists_exactDouble? {x : Float} (hfinite : x.isFinite = true) (hx : ¬ x ≤ 0) :
    ∃ q, exactDouble? x = some q ∧ 0 < q := by
  obtain ⟨m, e, hm, hunpack⟩ := unpack_of_not_le_zero hfinite hx
  obtain ⟨b, hb, hsign, hmantissa⟩ := parts_of_isPositive (isPositive_of_unpack hunpack)
  refine ⟨b.toRat, ?_, toRat_pos hsign hmantissa⟩
  rw [exactDouble?, DoubleParts.ofFloat, hb]

end Double

instance : LawfulScalar Float where
  isFinite_zero := by decide
  isFinite_one := by decide
  isFinite_neg_one := by decide +kernel
  not_zero_le_neg_one := by decide +kernel
  not_one_le_zero := by decide +kernel
  one_beq_zero := by decide +kernel
  isFinite_usualGain := by decide +kernel
  isFinite_usualLimit := by decide +kernel
  not_usualLimit_lt_zero := by decide +kernel
  isFinite_of_between := Double.isFinite_of_between
  exists_toRat? := Double.exists_exactDouble?

end HomeClimate
