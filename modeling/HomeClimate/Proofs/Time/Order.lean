import HomeClimate.Time.TimeOfDay

/-!
# The order of instants

Instants are ordered by their days and, within a day, by their times.  A day has
86400 seconds here whatever its leap seconds, so the order is that of three
integers and its laws are arithmetic.
-/

namespace HomeClimate

namespace Instant

/-- The order, on the integers behind it. -/
theorem lt_iff_parts {a b : Instant} :
    a < b ↔ a.day < b.day ∨ a.day = b.day ∧
      (a.time.second < b.time.second ∨ a.time.second = b.time.second ∧ a.time.nano < b.time.nano) :=
  Iff.rfl

theorem lt_irrefl (a : Instant) : ¬ a < a := by
  rw [lt_iff_parts]
  omega

theorem le_refl (a : Instant) : a ≤ a := not_lt.mp (lt_irrefl a)

theorem lt_of_le_of_lt {a b c : Instant} (hab : a ≤ b) (hbc : b < c) : a < c := by
  rw [← not_lt] at hab
  rw [lt_iff_parts] at *
  omega

theorem lt_of_lt_of_le {a b c : Instant} (hab : a < b) (hbc : b ≤ c) : a < c := by
  rw [← not_lt] at hbc
  rw [lt_iff_parts] at *
  omega

theorem le_of_lt {a b : Instant} (h : a < b) : a ≤ b := by
  rw [← not_lt]
  rw [lt_iff_parts] at *
  omega

theorem le_trans {a b c : Instant} (hab : a ≤ b) (hbc : b ≤ c) : a ≤ c := by
  rw [← not_lt] at *
  rw [lt_iff_parts] at *
  omega

theorem le_total (a b : Instant) : a ≤ b ∨ b ≤ a := by
  rw [← not_lt, ← not_lt, lt_iff_parts, lt_iff_parts]
  omega

theorem le_antisymm {a b : Instant} (hab : a ≤ b) (hba : b ≤ a) : a = b := by
  rw [← not_lt, lt_iff_parts] at hab hba
  obtain ⟨day, second, nano⟩ := a
  obtain ⟨day', second', nano'⟩ := b
  dsimp only at hab hba
  obtain ⟨rfl, rfl, rfl⟩ : day = day' ∧ second = second' ∧ nano = nano' := by omega
  rfl

theorem day_le_of_le {a b : Instant} (h : a ≤ b) : a.day ≤ b.day := by
  rcases h with h | h
  · exact Int.le_of_lt h
  · exact Int.le_of_eq h.1

/-- An instant is later than another, if there is another. -/
def IsAfter (now : Instant) (last : Option Instant) : Prop := ∀ t, last = some t → t < now

/-- No time has passed since an instant that is the same. -/
theorem since_self (a : Instant) : a.since a = 0 := by
  have htime : a.time.since a.time = 0 := by
    unfold TimeOfDay.since
    rw [if_neg (by omega), if_neg (by omega)]
    simp
  rw [since, htime]
  simp

theorem spanSince_self (a : Instant) : a.spanSince a = 0 := by
  rw [spanSince, since_self]
  rfl

end Instant

/-! ## No time later -/

theorem TimeOfDay.add_zero {t : TimeOfDay} (h : t.isValid = true) : t.add 0 = (t, 0) := by
  obtain ⟨hsecond, hnano⟩ := Bool.and_eq_true_iff.mp h
  have hsecond : t.second < 86400 := of_decide_eq_true hsecond
  have hnano : t.nano < 2 * 1000000000 := of_decide_eq_true hnano
  have hrest : Int.tmod 0 Span.perSecond = 0 := Int.zero_tmod _
  have hwhole : Int.tdiv 0 Span.perSecond = 0 := Int.zero_tdiv _
  simp only [add, hrest, hwhole, Int.add_zero]
  by_cases hleap : t.isLeap = true
  · have hshort : ¬ ((0 : Int) < 0 ∨ 2 * (Span.perSecond : Int) ≤ t.nano) := by
      simp only [Span.perSecond]
      omega
    rw [if_pos hleap, if_neg hshort, if_neg (by omega)]
    rfl
  · have hplain : t.nano < 1000000000 := Nat.not_le.mp fun hle => hleap (decide_eq_true hle)
    have hseconds : ((t.second : Int) * Span.perSecond + t.nano) / Span.perSecond = t.second := by
      simp only [Span.perSecond]
      omega
    have hnanos : ((t.second : Int) * Span.perSecond + t.nano) % Span.perSecond = t.nano := by
      simp only [Span.perSecond]
      omega
    have hday : (t.second : Int) % secondsPerDay = t.second ∧
        (t.second : Int) / secondsPerDay = 0 := by
      simp only [secondsPerDay]
      omega
    rw [if_neg hleap, ofNanos, hseconds, hnanos, hday.1, hday.2]
    rfl

/-- No time later it is the same instant, whether its day has a date or not. -/
theorem Instant.getD_add?_zero {t : Instant} (h : t.time.isValid = true) :
    (t.add? 0).getD t = t := by
  rw [add?, TimeOfDay.add_zero h]
  dsimp only
  rw [Int.add_zero]
  split
  · rfl
  · rfl

/-! ## Earlier times -/

namespace TimeOfDay

theorem ofNanos_le {t : TimeOfDay} (ht : t.second < secondsPerDay) {n : Int}
    (hn : n ≤ t.second * (Span.perSecond : Int) + t.nano)
    (hsecond : n < (t.second + 1) * (Span.perSecond : Int)) :
    (ofNanos n).2 < 0 ∨ (ofNanos n).2 = 0 ∧ (ofNanos n).1 ≤ t := by
  rw [le_iff]
  simp only [ofNanos, secondsPerDay, Span.perSecond] at *
  omega

/-- Nothing that is taken off leads to a later time. -/
theorem add_le {t : TimeOfDay} (h : t.isValid = true) {d : Int} (hd : d ≤ 0) :
    (t.add d).2 < 0 ∨ (t.add d).2 = 0 ∧ (t.add d).1 ≤ t := by
  obtain ⟨hsecond, hnano⟩ := Bool.and_eq_true_iff.mp h
  have hsecond : t.second < secondsPerDay := of_decide_eq_true hsecond
  have hnano : t.nano < 2 * Span.perSecond := of_decide_eq_true hnano
  obtain ⟨k, rfl⟩ := Int.exists_eq_neg_ofNat hd
  have hwhole : Int.tdiv (-(k : Int)) Span.perSecond = -((k / Span.perSecond : Nat) : Int) := by
    rw [Int.neg_tdiv, Int.tdiv_eq_ediv_of_nonneg (Int.natCast_nonneg k)]
    rfl
  have hrest : Int.tmod (-(k : Int)) Span.perSecond = -((k % Span.perSecond : Nat) : Int) := by
    rw [Int.neg_tmod, Int.tmod_eq_emod_of_nonneg (Int.natCast_nonneg k)]
    rfl
  have hwholeNonneg : (0 : Int) ≤ (k / Span.perSecond : Nat) := Int.natCast_nonneg _
  have hrestNonneg : (0 : Int) ≤ (k % Span.perSecond : Nat) := Int.natCast_nonneg _
  simp only [add, hwhole, hrest]
  by_cases hleap : t.isLeap = true
  · have hlate : ¬ (0 < -((k / Span.perSecond : Nat) : Int) ∨
        2 * (Span.perSecond : Int) ≤ t.nano + -((k % Span.perSecond : Nat) : Int)) := by
      omega
    have hnano' : Span.perSecond ≤ t.nano := of_decide_eq_true hleap
    rw [if_pos hleap, if_neg hlate]
    by_cases hwhole' : -((k / Span.perSecond : Nat) : Int) < 0
    · rw [if_pos hwhole']
      simp only [Span.perSecond] at *
      refine ofNanos_le hsecond ?_ ?_
      all_goals
        simp only [Span.perSecond]
        omega
    · rw [if_neg hwhole']
      refine .inr ⟨rfl, .inr ⟨rfl, ?_⟩⟩
      dsimp only
      omega
  · have hplain : t.nano < Span.perSecond := Nat.not_le.mp fun hle => hleap (decide_eq_true hle)
    rw [if_neg hleap]
    simp only [Span.perSecond] at *
    refine ofNanos_le hsecond ?_ ?_
    all_goals
      simp only [Span.perSecond]
      omega

end TimeOfDay

/-- An instant that is some time back is not later. -/
theorem Instant.sub?_le {t start : Instant} (h : t.time.isValid = true) {d : Int} (hd : 0 ≤ d)
    (hstart : t.sub? d = some start) : start ≤ t := by
  simp only [sub?, add?] at hstart
  split at hstart
  · cases hstart
    rcases TimeOfDay.add_le h (d := -d) (by omega) with hdays | ⟨hdays, hle⟩
    · refine .inl ?_
      dsimp only
      omega
    · refine .inr ⟨?_, hle⟩
      dsimp only
      omega
  · cases hstart

end HomeClimate
