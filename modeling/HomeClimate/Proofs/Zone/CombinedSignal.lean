import HomeClimate.Zone.Economizer
import Mathlib.Algebra.Order.Field.Basic
import Mathlib.Algebra.Order.Field.Rat
import Mathlib.Algebra.Order.Ring.Abs
import Mathlib.Tactic.FieldSimp
import Mathlib.Tactic.Linarith
import Mathlib.Tactic.Ring

/-!
# The sign of the combined signal

The combined signal of an economizer is made of two numbers: the advantage of outside air
beyond the changeover delta, and the distance of the zone from its target.  There are three
regions.

* Outside air is of no use, or the zone is further from its target than the changeover delta:
  the signal is the advantage (`combinedSignal_of_far`).
* The zone is within the changeover delta of its target, or past it: the signal is the
  advantage times the share of the changeover delta that the distance is
  (`combinedSignal_of_near`).  So it has the sign of the distance.
* There is no changeover delta, and the zone is at its target or past it: there is no signal
  (`combinedSignal_of_step`).

In the last region the signal does not turn negative past the target
(`no_signal_past_target`), as it does in the one before.  This is the one exception in
`combinedSignal_tempered`.  Scalars are exact here.
-/

namespace HomeClimate

/-! ## The three regions -/

section Regions

variable {mode : Mode} {s : EconomizerSettings Rat} {indoor ambient : Rat}

theorem combinedSignal_of_far
    (h : s.changeoverDelta < targetDistance mode s indoor ∨
      ambientAdvantage mode s indoor ambient < 0) :
    combinedSignal mode s indoor ambient = ambientAdvantage mode s indoor ambient := by
  unfold combinedSignal
  dsimp only
  rw [if_pos h]
  exact sub_zero _

theorem combinedSignal_of_step
    (h : ¬ (s.changeoverDelta < targetDistance mode s indoor ∨
      ambientAdvantage mode s indoor ambient < 0))
    (hdelta : s.changeoverDelta = 0) : combinedSignal mode s indoor ambient = 0 := by
  unfold combinedSignal
  dsimp only
  rw [if_neg h, if_pos (beq_iff_eq.mpr hdelta)]
  exact sub_self _

theorem combinedSignal_of_near
    (h : ¬ (s.changeoverDelta < targetDistance mode s indoor ∨
      ambientAdvantage mode s indoor ambient < 0))
    (hdelta : 0 < s.changeoverDelta) :
    combinedSignal mode s indoor ambient =
      ambientAdvantage mode s indoor ambient *
        (targetDistance mode s indoor / s.changeoverDelta) := by
  have hne : s.changeoverDelta ≠ 0 := ne_of_gt hdelta
  unfold combinedSignal
  dsimp only
  rw [if_neg h, if_neg (by simpa using hne)]
  field_simp
  ring

end Regions

/-! ## The sign -/

/-- How a signal goes with the advantage of outside air and the distance from the target. -/
structure IsTempered (delta advantage distance signal : Rat) : Prop where
  pos_iff : 0 < signal ↔ 0 < advantage ∧ 0 < distance
  zero_iff : signal = 0 ↔
    advantage = 0 ∨ 0 < advantage ∧ (distance = 0 ∨ distance < 0 ∧ delta = 0)
  neg_iff : signal < 0 ↔ advantage < 0 ∨ 0 < advantage ∧ distance < 0 ∧ 0 < delta
  full : delta < distance ∨ advantage < 0 → signal = advantage
  within : 0 ≤ distance → distance ≤ delta → |signal| ≤ |advantage|

namespace IsTempered

variable {delta advantage distance : Rat}

theorem of_far (hdelta : 0 ≤ delta) (h : delta < distance ∨ advantage < 0) :
    IsTempered delta advantage distance advantage := by
  have hdistance : 0 < advantage → 0 < distance := fun hpos =>
    lt_of_le_of_lt hdelta (h.resolve_right (not_lt_of_gt hpos))
  constructor
  case pos_iff => exact ⟨fun hpos => ⟨hpos, hdistance hpos⟩, And.left⟩
  case zero_iff =>
    refine ⟨Or.inl, ?_⟩
    rintro (hzero | ⟨hpos, hat | ⟨hpast, -⟩⟩)
    · exact hzero
    · exact absurd (hdistance hpos) (by rw [hat]; exact lt_irrefl 0)
    · exact absurd (hdistance hpos) (not_lt_of_gt hpast)
  case neg_iff =>
    refine ⟨Or.inl, ?_⟩
    rintro (hneg | ⟨hpos, hpast, -⟩)
    · exact hneg
    · exact absurd (hdistance hpos) (not_lt_of_gt hpast)
  case full => exact fun _ => rfl
  case within => exact fun _ _ => le_refl _

theorem of_step (hfar : ¬ (delta < distance ∨ advantage < 0)) (hdelta : delta = 0) :
    IsTempered delta advantage distance 0 := by
  obtain ⟨hclose, hhelps⟩ := not_or.mp hfar
  rw [hdelta] at hclose
  constructor
  case pos_iff => exact ⟨fun h => absurd h (lt_irrefl 0), fun h => absurd h.2 hclose⟩
  case zero_iff =>
    refine ⟨fun _ => ?_, fun _ => rfl⟩
    rcases eq_or_lt_of_le (not_lt.mp hhelps) with hzero | hpos
    · exact .inl hzero.symm
    · exact .inr ⟨hpos, (eq_or_lt_of_le (not_lt.mp hclose)).imp id fun hpast => ⟨hpast, hdelta⟩⟩
  case neg_iff =>
    refine ⟨fun h => absurd h (lt_irrefl 0), ?_⟩
    rintro (hneg | ⟨-, -, hwide⟩)
    · exact absurd hneg hhelps
    · exact absurd hdelta (ne_of_gt hwide)
  case full => exact fun h => absurd h hfar
  case within =>
    intro _ _
    rw [abs_zero]
    exact abs_nonneg advantage

theorem of_near (hfar : ¬ (delta < distance ∨ advantage < 0)) (hdelta : 0 < delta) :
    IsTempered delta advantage distance (advantage * (distance / delta)) := by
  obtain ⟨hclose, hhelps⟩ := not_or.mp hfar
  have hnonneg : 0 ≤ advantage := not_lt.mp hhelps
  have hwide : delta ≠ 0 := ne_of_gt hdelta
  constructor
  case pos_iff =>
    refine ⟨fun h => ?_, fun h => mul_pos h.1 (div_pos h.2 hdelta)⟩
    have hshare : 0 < distance / delta := pos_of_mul_pos_right h hnonneg
    exact ⟨pos_of_mul_pos_left h hshare.le, (div_pos_iff_of_pos_right hdelta).mp hshare⟩
  case zero_iff =>
    rw [mul_eq_zero, div_eq_zero_iff, or_iff_left hwide]
    constructor
    · rintro (hzero | hat)
      · exact .inl hzero
      · exact (eq_or_lt_of_le hnonneg).imp Eq.symm fun hpos => ⟨hpos, .inl hat⟩
    · rintro (hzero | ⟨-, hat | ⟨-, hstep⟩⟩)
      · exact .inl hzero
      · exact .inr hat
      · exact absurd hstep hwide
  case neg_iff =>
    constructor
    · intro h
      have hshare : distance / delta < 0 := neg_of_mul_neg_right h hnonneg
      have hpast : distance < 0 := by
        rw [← zero_mul delta]
        exact (div_lt_iff₀ hdelta).mp hshare
      refine .inr ⟨lt_of_le_of_ne hnonneg ?_, hpast, hdelta⟩
      rintro rfl
      rw [zero_mul] at h
      exact lt_irrefl 0 h
    · rintro (hneg | ⟨hpos, hpast, -⟩)
      · exact absurd hneg hhelps
      · exact mul_neg_of_pos_of_neg hpos (div_neg_of_neg_of_pos hpast hdelta)
  case full => exact fun h => absurd h hfar
  case within =>
    intro hshort hlong
    have hshare : |distance / delta| ≤ 1 := by
      rw [abs_of_nonneg (div_nonneg hshort hdelta.le)]
      exact (div_le_one hdelta).mpr hlong
    rw [abs_mul]
    exact mul_le_of_le_one_right (abs_nonneg advantage) hshare

end IsTempered

/-- Valid settings have a changeover delta that is not negative. -/
theorem EconomizerSettings.changeoverDelta_nonneg {s : EconomizerSettings Rat}
    (h : s.check = .ok ()) : 0 ≤ s.changeoverDelta := by
  unfold check at h
  split at h
  · cases h
  next hdelta => simpa [Scalar.isFinite] using hdelta

/-- The settings for the mirror image of a zone, where warmer is colder. -/
def EconomizerSettings.mirrored (s : EconomizerSettings Rat) : EconomizerSettings Rat :=
  { s with target := -s.target }

/-- Heating is cooling in the mirror. -/
theorem combinedSignal_mirrored (s : EconomizerSettings Rat) (indoor ambient : Rat) :
    combinedSignal .heating s.mirrored (-indoor) (-ambient) =
      combinedSignal .cooling s indoor ambient := by
  have hadvantage : ambientAdvantage .heating s.mirrored (-indoor) (-ambient) =
      ambientAdvantage .cooling s indoor ambient := by
    show -ambient - (-indoor + s.changeoverDelta) = indoor - (ambient + s.changeoverDelta)
    ring
  have hdistance : targetDistance .heating s.mirrored (-indoor) =
      targetDistance .cooling s indoor := by
    show -s.target - -indoor = indoor - s.target
    ring
  unfold combinedSignal
  rw [hadvantage, hdistance]
  rfl

/-- The combined signal is positive where outside air helps and the zone is not at its target yet,
and it backs off to nothing on the way to the target and, if there is a changeover delta, turns
negative past it. -/
theorem combinedSignal_tempered {s : EconomizerSettings Rat} (hvalid : s.check = .ok ())
    (indoor ambient : Rat) :
    (∀ mode, IsTempered s.changeoverDelta (ambientAdvantage mode s indoor ambient)
        (targetDistance mode s indoor) (combinedSignal mode s indoor ambient)) ∧
      combinedSignal .heating s.mirrored (-indoor) (-ambient) =
        combinedSignal .cooling s indoor ambient := by
  have hdelta := EconomizerSettings.changeoverDelta_nonneg hvalid
  refine ⟨fun mode => ?_, combinedSignal_mirrored s indoor ambient⟩
  by_cases hfar : s.changeoverDelta < targetDistance mode s indoor ∨
      ambientAdvantage mode s indoor ambient < 0
  · rw [combinedSignal_of_far hfar]
    exact .of_far hdelta hfar
  · rcases eq_or_lt_of_le hdelta with hstep | hwide
    · rw [combinedSignal_of_step hfar hstep.symm]
      exact .of_step hfar hstep.symm
    · rw [combinedSignal_of_near hfar hwide]
      exact .of_near hfar hwide

/-- A zone that is cooled with a changeover delta of two and is half a degree from its target. -/
theorem combinedSignal_tempered_in_den :
    let s : EconomizerSettings Rat := .ofTarget 2 22
    s.check = .ok () ∧ IsTempered 2 (15 / 2) (1 / 2) (combinedSignal .cooling s (45 / 2) 13) ∧
      combinedSignal .heating s.mirrored (-(45 / 2)) (-13) =
        combinedSignal .cooling s (45 / 2) 13 := by
  intro s
  have hvalid : s.check = .ok () := by decide
  obtain ⟨htempered, hmirrored⟩ := combinedSignal_tempered hvalid (45 / 2) 13
  have hadvantage : ambientAdvantage .cooling s (45 / 2) 13 = 15 / 2 := by decide +kernel
  have hdistance : targetDistance .cooling s (45 / 2) = 1 / 2 := by decide +kernel
  exact ⟨hvalid, hadvantage ▸ hdistance ▸ htempered .cooling, hmirrored⟩

/-- With no changeover delta the signal does not turn negative past the target. -/
theorem no_signal_past_target :
    let s : EconomizerSettings Rat := .ofTarget 0 22
    s.check = .ok () ∧ 0 < ambientAdvantage .cooling s 21 15 ∧
      targetDistance .cooling s 21 < 0 ∧ combinedSignal .cooling s 21 15 = 0 ∧
      ¬ combinedSignal .cooling s 21 15 < 0 := by
  decide +kernel

end HomeClimate
