import HomeClimate.Proofs.Number.Lawful

/-!
# Doubles that are equal as numbers

Equality of doubles is not identity: the two zeros are equal, and no number differs
from itself.  That is all there is to it.  Doubles that are equal are the same but for
the sign of a zero (`unpack_of_beq`).

So what looks at a double only by comparing it cannot tell equal ones apart, and
neither can a share of something (`fraction_beq`), which is a number in any case
(`fraction_beq_self`).
-/

namespace HomeClimate.Double

open Float.Model (UnpackedFloat)
open Float.Model.UnpackedFloat (Sign)

theorem lt_iff (x y : Float) : x < y ↔ x.toModel.unpack.lt y.toModel.unpack = true := by
  change x.lt y = true ↔ _
  rw [Float.lt, decide_eq_true_iff]
  rfl

theorem beq_iff (x y : Float) :
    (x == y) = true ↔ x.toModel.unpack.compare y.toModel.unpack = some .eq := by
  change (x.toModel.unpack.compare y.toModel.unpack == some .eq) = true ↔ _
  exact beq_iff_eq

/-! ## Equality -/

theorem compare_zero (s s' : Sign) (u : UnpackedFloat) :
    UnpackedFloat.compare (.zero s) u = UnpackedFloat.compare (.zero s') u := by
  cases u with
  | notANumber => rfl
  | infinity t => cases t <;> rfl
  | zero t => rfl
  | finite t m e hm => cases t <;> rfl

theorem compare_of_zero (s s' : Sign) (u : UnpackedFloat) :
    UnpackedFloat.compare u (.zero s) = UnpackedFloat.compare u (.zero s') := by
  cases u with
  | notANumber => rfl
  | infinity t => cases t <;> rfl
  | zero t => rfl
  | finite t m e hm => cases t <;> rfl

theorem eq_of_compare_then {e e' : Int} {m m' : Nat}
    (h : (compare e e').then (compare m m') = .eq) : e = e' ∧ m = m' := by
  obtain ⟨he, hm⟩ := Ordering.then_eq_eq.mp h
  exact ⟨Std.LawfulEqOrd.eq_of_compare he, Std.LawfulEqOrd.eq_of_compare hm⟩

theorem eq_or_zeros_of_compare {u v : UnpackedFloat} (hcompare : u.compare v = some .eq) :
    u = v ∨ ∃ s s', u = .zero s ∧ v = .zero s' := by
  cases u with
  | notANumber => cases hcompare
  | infinity s =>
      cases v with
      | infinity t => cases s <;> cases t <;> first | exact .inl rfl | cases hcompare
      | notANumber => cases hcompare
      | zero _ => cases s <;> cases hcompare
      | finite _ _ _ _ => cases s <;> cases hcompare
  | zero s =>
      cases v with
      | zero t => exact .inr ⟨s, t, rfl, rfl⟩
      | notANumber => cases hcompare
      | infinity t => cases t <;> cases hcompare
      | finite t _ _ _ => cases t <;> cases hcompare
  | finite s m e hm =>
      cases v with
      | notANumber => cases hcompare
      | infinity t => cases s <;> cases t <;> cases hcompare
      | zero _ => cases s <;> cases hcompare
      | finite t m' e' hm' =>
          cases s <;> cases t
          case negative.negative =>
            have hswap := Option.some.inj hcompare
            obtain ⟨rfl, rfl⟩ := eq_of_compare_then (Ordering.swap_eq_eq.mp hswap)
            exact .inl rfl
          case positive.positive =>
            obtain ⟨rfl, rfl⟩ := eq_of_compare_then (Option.some.inj hcompare)
            exact .inl rfl
          all_goals cases hcompare

/-- Doubles that are equal as numbers are the same but for the sign of a zero. -/
theorem unpack_of_beq {x y : Float} (h : (x == y) = true) :
    x.toModel.unpack = y.toModel.unpack ∨
      ∃ s s', x.toModel.unpack = .zero s ∧ y.toModel.unpack = .zero s' :=
  eq_or_zeros_of_compare ((beq_iff x y).mp h)

/-- Doubles that are equal as numbers compare in the same way to any other. -/
theorem compare_of_beq {x y : Float} (h : (x == y) = true) (u : UnpackedFloat) :
    x.toModel.unpack.compare u = y.toModel.unpack.compare u ∧
      u.compare x.toModel.unpack = u.compare y.toModel.unpack := by
  rcases unpack_of_beq h with heq | ⟨s, s', hx, hy⟩
  · rw [heq]
    exact ⟨rfl, rfl⟩
  · rw [hx, hy]
    exact ⟨compare_zero s s' u, compare_of_zero s s' u⟩

theorem lt_iff_of_beq {x y : Float} (h : (x == y) = true) (z : Float) :
    (x < z ↔ y < z) ∧ (z < x ↔ z < y) := by
  obtain ⟨hleft, hright⟩ := compare_of_beq h z.toModel.unpack
  simp only [lt_iff, UnpackedFloat.lt, hleft, hright, and_self]

theorem beq_self_of_beq {x y : Float} (h : (x == y) = true) :
    (x == x) = true ∧ (y == y) = true := by
  obtain ⟨hleft, -⟩ := compare_of_beq h y.toModel.unpack
  obtain ⟨-, hright⟩ := compare_of_beq h x.toModel.unpack
  rw [beq_iff] at h
  rw [beq_iff, beq_iff, hright, ← hleft]
  exact ⟨h, h⟩

/-! ## Shares -/

theorem clamp_beq {low high x y : Float} (hlow : (low == low) = true)
    (hhigh : (high == high) = true) (h : (x == y) = true) :
    (Scalar.clamp low high x == Scalar.clamp low high y) = true := by
  have hbelow : x < low ↔ y < low := (lt_iff_of_beq h low).1
  have habove : high < x ↔ high < y := (lt_iff_of_beq h high).2
  rw [Scalar.clamp, Scalar.clamp]
  by_cases hx : x < low
  · rw [if_pos hx, if_pos (hbelow.mp hx)]
    exact hlow
  · rw [if_neg hx, if_neg (mt hbelow.mpr hx)]
    by_cases hx' : high < x
    · rw [if_pos hx', if_pos (habove.mp hx')]
      exact hhigh
    · rw [if_neg hx', if_neg (mt habove.mpr hx')]
      exact h

/-- A share of a number is the number within its bounds. -/
theorem fraction_of_beq_self {x : Float} (h : (x == x) = true) :
    Scalar.fraction x = Scalar.clamp 0 1 x := by
  have hnumber : ¬ Scalar.isNaN x = true := by simpa [Scalar.isNaN] using h
  exact if_neg hnumber

theorem fraction_beq {x y : Float} (h : (x == y) = true) :
    (Scalar.fraction x == Scalar.fraction y) = true := by
  obtain ⟨hx, hy⟩ := beq_self_of_beq h
  rw [fraction_of_beq_self hx, fraction_of_beq_self hy]
  exact clamp_beq (by decide +kernel) (by decide +kernel) h

/-- A share is a number, whatever it was made of. -/
theorem fraction_beq_self (x : Float) : (Scalar.fraction x == Scalar.fraction x) = true := by
  by_cases h : (x == x) = true
  · exact fraction_beq h
  · have hnot : Scalar.isNaN x = true := by simpa [Scalar.isNaN] using h
    rw [Scalar.fraction, if_pos hnot]
    decide +kernel

/-- Equal doubles have equal shares on the other side of zero. -/
theorem fraction_neg_beq {x y : Float} (h : (x == y) = true) :
    (Scalar.fraction (-x) == Scalar.fraction (-y)) = true := by
  change (Scalar.fraction (Float.ofModel (.pack x.toModel.unpack.neg)) ==
    Scalar.fraction (Float.ofModel (.pack y.toModel.unpack.neg))) = true
  rcases unpack_of_beq h with heq | ⟨s, s', hx, hy⟩
  · rw [heq]
    exact fraction_beq_self _
  · rw [hx, hy]
    refine fraction_beq ?_
    cases s <;> cases s' <;> decide +kernel

end HomeClimate.Double
