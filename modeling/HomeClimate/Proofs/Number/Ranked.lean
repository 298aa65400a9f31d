import HomeClimate.Proofs.Number.Shares
import Mathlib.Data.Prod.Lex

/-!
# Values that stand in an order

What sorts values by asking which is below which relies on the values standing in an order
(`AreRanked`).  Exact numbers always do.  Doubles do unless one of them is no number
(`Double.areRanked_of_numbers`): a double has a place (`Double.place`), and one number is
below another if its place is.

The two zeros have the same place.  So of doubles neither of which is below the other one
cannot say that they are identical, only that they are equal as numbers.  That makes no
difference to a mean but for the sign of a zero (`Double.mean_alike`).
-/

namespace HomeClimate

/-- Values that stand in an order, where several may share a place. -/
structure AreRanked {ν : Type} [LT ν] (values : List ν) : Prop where
  asymm : ∀ a ∈ values, ∀ b ∈ values, a < b → ¬ b < a
  trans : ∀ a ∈ values, ∀ b ∈ values, ∀ c ∈ values, ¬ b < a → ¬ c < b → ¬ c < a

namespace AreRanked

variable {ν : Type} [LT ν] {values : List ν}

theorem subset (h : AreRanked values) {part : List ν} (hsubset : part ⊆ values) :
    AreRanked part where
  asymm a ha b hb := h.asymm a (hsubset ha) b (hsubset hb)
  trans a ha b hb c hc := h.trans a (hsubset ha) b (hsubset hb) c (hsubset hc)

theorem irrefl (h : AreRanked values) {a : ν} (ha : a ∈ values) : ¬ a < a := by
  intro hlt
  exact h.asymm a ha a ha hlt hlt

theorem lt_of_lt_of_not_lt (h : AreRanked values) {a b c : ν} (ha : a ∈ values) (hb : b ∈ values)
    (hc : c ∈ values) (hab : a < b) (hcb : ¬ c < b) : a < c := by
  by_contra hac
  exact h.trans b hb c hc a ha hcb hac hab

/-- Values of which each has a place in an order are in order. -/
theorem of_place {π : Type} [LinearOrder π] (place : ν → π)
    (h : ∀ a ∈ values, ∀ b ∈ values, a < b ↔ place a < place b) : AreRanked values where
  asymm a ha b hb hlt := by
    rw [h a ha b hb] at hlt
    rw [h b hb a ha]
    exact lt_asymm hlt
  trans a ha b hb c hc hab hbc := by
    rw [h b hb a ha, not_lt] at hab
    rw [h c hc b hb, not_lt] at hbc
    rw [h c hc a ha, not_lt]
    exact le_trans hab hbc

end AreRanked

namespace Double

open Float.Model (UnpackedFloat)
open Float.Model.UnpackedFloat (Sign)

/-! ## The order of numbers -/

/-- The place of a double in the order of numbers. -/
def place : UnpackedFloat → Int ×ₗ Int ×ₗ Int
  | .notANumber => toLex (0, toLex (0, 0))
  | .infinity .negative => toLex (-2, toLex (0, 0))
  | .finite .negative m e _ => toLex (-1, toLex (-e, -m))
  | .zero _ => toLex (0, toLex (0, 0))
  | .finite .positive m e _ => toLex (1, toLex (e, m))
  | .infinity .positive => toLex (2, toLex (0, 0))

theorem compare_then_eq_lt_iff {e e' : Int} {m m' : Nat} :
    (compare e e').then (compare m m') = .lt ↔ e < e' ∨ e = e' ∧ m < m' := by
  rw [Ordering.then_eq_lt, compare_lt_iff_lt, compare_lt_iff_lt, compare_eq_iff_eq]

theorem compare_then_eq_gt_iff {e e' : Int} {m m' : Nat} :
    (compare e e').then (compare m m') = .gt ↔ e' < e ∨ e = e' ∧ m' < m := by
  rw [Ordering.then_eq_gt, compare_gt_iff_gt, compare_gt_iff_gt, compare_eq_iff_eq]

theorem lt_iff_place {u v : UnpackedFloat} (hu : u ≠ .notANumber) (hv : v ≠ .notANumber) :
    u.lt v = true ↔ place u < place v := by
  have hlt : u.lt v = true ↔ u.compare v = some .lt := beq_iff_eq
  rw [hlt]
  cases u with
  | notANumber => exact absurd rfl hu
  | infinity s =>
      cases v with
      | notANumber => exact absurd rfl hv
      | infinity t => cases s <;> cases t <;> decide
      | zero t => cases s <;> cases t <;> decide
      | finite t m e hm =>
          cases s <;> cases t <;> dsimp only [UnpackedFloat.compare, place] <;>
            simp [Prod.Lex.toLex_lt_toLex]
  | zero s =>
      cases v with
      | notANumber => exact absurd rfl hv
      | infinity t => cases s <;> cases t <;> decide
      | zero t => cases s <;> cases t <;> decide
      | finite t m e hm =>
          cases t <;> dsimp only [UnpackedFloat.compare, place] <;> simp [Prod.Lex.toLex_lt_toLex]
  | finite s m e hm =>
      cases v with
      | notANumber => exact absurd rfl hv
      | infinity t =>
          cases s <;> cases t <;> dsimp only [UnpackedFloat.compare, place] <;>
            simp [Prod.Lex.toLex_lt_toLex]
      | zero t =>
          cases s <;> dsimp only [UnpackedFloat.compare, place] <;> simp [Prod.Lex.toLex_lt_toLex]
      | finite t m' e' hm' =>
          cases s <;> cases t
          case positive.positive =>
            dsimp only [UnpackedFloat.compare, place]
            simp [Prod.Lex.toLex_lt_toLex, compare_then_eq_lt_iff]
          case negative.negative =>
            dsimp only [UnpackedFloat.compare, place]
            simp [Prod.Lex.toLex_lt_toLex, compare_then_eq_gt_iff]
          all_goals dsimp only [UnpackedFloat.compare, place]
          all_goals simp [Prod.Lex.toLex_lt_toLex]

/-- Doubles stand in an order if each of them is a number. -/
theorem areRanked_of_numbers {values : List Float} (h : ∀ x ∈ values, (x == x) = true) :
    AreRanked values := by
  refine AreRanked.of_place (fun x => place x.toModel.unpack) ?_
  intro a ha b hb
  rw [lt_iff]
  exact lt_iff_place (ne_notANumber_of_beq_self (h a ha)) (ne_notANumber_of_beq_self (h b hb))

/-! ## Means of equal numbers -/

/-- Doubles that are identical or equal as numbers. -/
def AreAlike (x y : Float) : Prop := x = y ∨ (x == y) = true

/-- Numbers of which neither is below the other are equal. -/
theorem beq_of_not_lt {x y : Float} (hx : (x == x) = true) (hy : (y == y) = true)
    (hxy : ¬ x < y) (hyx : ¬ y < x) : (x == y) = true := by
  obtain ⟨o, ho⟩ := Option.isSome_iff_exists.mp
    (isSome_compare (ne_notANumber_of_beq_self hx) (ne_notANumber_of_beq_self hy))
  rw [lt_iff, UnpackedFloat.lt, ho] at hxy
  rw [lt_iff, UnpackedFloat.lt, compare_swap x.toModel.unpack, ho] at hyx
  rw [beq_iff, ho]
  cases o with
  | lt => exact absurd rfl hxy
  | eq => rfl
  | gt => exact absurd rfl hyx

/-- Parts of doubles that are the same but for the sign of a zero. -/
def AreAlikeParts (u v : UnpackedFloat) : Prop := u = v ∨ ∃ s s', u = .zero s ∧ v = .zero s'

theorem AreAlike.parts {x y : Float} (h : AreAlike x y) :
    AreAlikeParts x.toModel.unpack y.toModel.unpack := by
  rcases h with rfl | hbeq
  · exact Or.inl rfl
  · exact unpack_of_beq hbeq

theorem AreAlikeParts.pack {u v : UnpackedFloat} (h : AreAlikeParts u v) :
    AreAlike (.ofModel (.pack u)) (.ofModel (.pack v)) := by
  rcases h with rfl | ⟨s, s', rfl, rfl⟩
  · exact Or.inl rfl
  · refine Or.inr ?_
    cases s <;> cases s' <;> decide +kernel

/-- A zero of either sign makes no difference to a sum, unless that is a zero too. -/
theorem AreAlikeParts.add {spec : Float.Model.Format} {u u' v v' : UnpackedFloat}
    (hu : AreAlikeParts u u') (hv : AreAlikeParts v v') :
    AreAlikeParts (u.add spec v) (u'.add spec v') := by
  have hzeros : ∀ s s', ∃ t, UnpackedFloat.add spec (.zero s) (.zero s') = .zero t := by
    intro s s'
    cases s <;> cases s' <;> exact ⟨_, rfl⟩
  rcases hu with rfl | ⟨s, s', rfl, rfl⟩
  · rcases hv with rfl | ⟨t, t', rfl, rfl⟩
    · exact Or.inl rfl
    · cases u with
      | zero s =>
          obtain ⟨r, hr⟩ := hzeros s t
          obtain ⟨r', hr'⟩ := hzeros s t'
          exact Or.inr ⟨r, r', hr, hr'⟩
      | notANumber => exact Or.inl rfl
      | infinity s => exact Or.inl rfl
      | finite s m e hm => exact Or.inl rfl
  · rcases hv with rfl | ⟨t, t', rfl, rfl⟩
    · cases v with
      | zero t =>
          obtain ⟨r, hr⟩ := hzeros s t
          obtain ⟨r', hr'⟩ := hzeros s' t
          exact Or.inr ⟨r, r', hr, hr'⟩
      | notANumber => exact Or.inl rfl
      | infinity t => exact Or.inl rfl
      | finite t m e hm => exact Or.inl rfl
    · obtain ⟨r, hr⟩ := hzeros s t
      obtain ⟨r', hr'⟩ := hzeros s' t'
      exact Or.inr ⟨r, r', hr, hr'⟩

theorem AreAlikeParts.div {spec : Float.Model.Format} {u u' : UnpackedFloat}
    (hu : AreAlikeParts u u') (v : UnpackedFloat) :
    AreAlikeParts (u.div spec v) (u'.div spec v) := by
  rcases hu with rfl | ⟨s, s', rfl, rfl⟩
  · exact Or.inl rfl
  · cases v with
    | notANumber => exact Or.inl rfl
    | zero t => exact Or.inl rfl
    | infinity t => exact Or.inr ⟨s / t, s' / t, rfl, rfl⟩
    | finite t m e hm => exact Or.inr ⟨s / t, s' / t, rfl, rfl⟩

/-- Equal numbers have equal means. -/
theorem mean_alike {x x' y y' : Float} (hx : AreAlike x x') (hy : AreAlike y y') :
    AreAlike (Scalar.mean x y) (Scalar.mean x' y') := by
  have hsum : AreAlike (x + y) (x' + y') := (hx.parts.add hy.parts).pack
  exact (hsum.parts.div (Scalar.two : Float).toModel.unpack).pack

end Double

end HomeClimate
