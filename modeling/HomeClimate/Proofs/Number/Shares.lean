import HomeClimate.Proofs.Number.Equality

/-!
# Shares are within their bounds

A share of something is made of a double of any kind, infinities and what is no number
among them.  It lies between nothing and all (`fraction_between`).  A clamp alone does not
see to that, because it lets pass what is no number.  What it lets pass of the numbers is
neither below the one bound nor above the other, and numbers are ordered: of two of them
one is at most the other (`le_of_not_lt`).
-/

namespace HomeClimate.Double

open Float.Model (UnpackedFloat)

theorem swap_compare_then (e e' : Int) (m m' : Nat) :
    ((compare e e').then (compare m m')).swap = (compare e' e).then (compare m' m) := by
  rw [Ordering.swap_then, ← Std.OrientedCmp.eq_swap, ← Std.OrientedCmp.eq_swap]

/-- The comparison of two doubles the other way round. -/
theorem compare_swap (u v : UnpackedFloat) :
    v.compare u = (u.compare v).map Ordering.swap := by
  cases u with
  | notANumber => cases v <;> rfl
  | infinity s =>
      cases v with
      | notANumber => rfl
      | infinity t => cases s <;> cases t <;> rfl
      | zero t => cases s <;> rfl
      | finite t m e hm => cases s <;> cases t <;> rfl
  | zero s =>
      cases v with
      | notANumber => rfl
      | infinity t => cases t <;> rfl
      | zero t => rfl
      | finite t m e hm => cases t <;> rfl
  | finite s m e hm =>
      cases v with
      | notANumber => rfl
      | infinity t => cases s <;> cases t <;> rfl
      | zero t => cases s <;> rfl
      | finite t m' e' hm' =>
          cases s <;> cases t
          case positive.positive => exact congrArg some (swap_compare_then e e' m m').symm
          case negative.negative =>
            refine congrArg some ?_
            rw [swap_compare_then, swap_compare_then, swap_compare_then]
          all_goals rfl

theorem ne_notANumber_of_beq_self {x : Float} (hx : (x == x) = true) :
    x.toModel.unpack ≠ .notANumber := by
  intro h
  rw [beq_iff, h] at hx
  cases hx

/-- Two numbers can be compared. -/
theorem isSome_compare {u v : UnpackedFloat} (hu : u ≠ .notANumber) (hv : v ≠ .notANumber) :
    (u.compare v).isSome = true := by
  cases u with
  | notANumber => exact absurd rfl hu
  | infinity s =>
      cases v with
      | notANumber => exact absurd rfl hv
      | infinity t => rfl
      | zero t => cases s <;> rfl
      | finite t m e hm => cases s <;> rfl
  | zero s =>
      cases v with
      | notANumber => exact absurd rfl hv
      | infinity t => cases t <;> rfl
      | zero t => rfl
      | finite t m e hm => cases t <;> rfl
  | finite s m e hm =>
      cases v with
      | notANumber => exact absurd rfl hv
      | infinity t => cases s <;> cases t <;> rfl
      | zero t => cases s <;> rfl
      | finite t m' e' hm' => cases s <;> cases t <;> rfl

/-- Of two numbers one is at most the other. -/
theorem le_of_not_lt {x y : Float} (hx : (x == x) = true) (hy : (y == y) = true)
    (h : ¬ y < x) : x ≤ y := by
  obtain ⟨o, ho⟩ := Option.isSome_iff_exists.mp
    (isSome_compare (ne_notANumber_of_beq_self hx) (ne_notANumber_of_beq_self hy))
  rw [lt_iff, UnpackedFloat.lt, compare_swap x.toModel.unpack, ho] at h
  rw [le_iff, UnpackedFloat.le, ho]
  cases o with
  | lt => rfl
  | eq => rfl
  | gt => exact absurd rfl h

/-- A share lies between nothing and all, whatever it was made of. -/
theorem fraction_between (x : Float) : 0 ≤ Scalar.fraction x ∧ Scalar.fraction x ≤ 1 := by
  have hzero : (0 : Float) ≤ 0 ∧ (0 : Float) ≤ 1 := by decide +kernel
  have hone : (0 : Float) ≤ 1 ∧ (1 : Float) ≤ 1 := by decide +kernel
  by_cases hx : (x == x) = true
  · rw [fraction_of_beq_self hx, Scalar.clamp]
    by_cases hbelow : x < 0
    · rw [if_pos hbelow]
      exact hzero
    · rw [if_neg hbelow]
      by_cases habove : 1 < x
      · rw [if_pos habove]
        exact hone
      · rw [if_neg habove]
        exact ⟨le_of_not_lt (by decide +kernel) hx hbelow,
          le_of_not_lt hx (by decide +kernel) habove⟩
  · have hnot : Scalar.isNaN x = true := by simpa [Scalar.isNaN] using hx
    rw [Scalar.fraction, if_pos hnot]
    exact hzero

end HomeClimate.Double
