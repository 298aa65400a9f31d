import HomeClimate.Proofs.Time.Order

/-!
# Differences of instants

Outside leap seconds an instant is a number of nanoseconds (`Instant.nanos`), and all
that is done with instants is arithmetic on these numbers: the order is theirs, a
difference is a difference, a sum is a sum.

So the longer ago something was, the more time has passed since (`spanSince_le`), and
what is not before the limit of an age is not older than that age.  A leap second
breaks both: what comes in it may count as longer ago than what came before it.
-/

namespace HomeClimate

namespace Instant

/-- An instant that is not in a leap second. -/
structure IsPlain (t : Instant) : Prop where
  second : t.time.second < secondsPerDay
  nano : t.time.nano < Span.perSecond

instance (t : Instant) : Decidable t.IsPlain :=
  decidable_of_iff (t.time.second < secondsPerDay ∧ t.time.nano < Span.perSecond)
    ⟨fun h => ⟨h.1, h.2⟩, fun h => ⟨h.second, h.nano⟩⟩

/-- Nanoseconds since the start of 1970, with no leap second. -/
def nanos (t : Instant) : Int :=
  t.day * nanosPerDay + (t.time.second * Span.perSecond + t.time.nano : Nat)

/-! ## The order and the difference -/

theorem IsPlain.isLeap {t : Instant} (h : t.IsPlain) : t.time.isLeap = false := by
  have hnano := h.nano
  rw [TimeOfDay.isLeap]
  exact decide_eq_false (by omega)

theorem IsPlain.lt_iff {a b : Instant} (ha : a.IsPlain) (hb : b.IsPlain) :
    a < b ↔ a.nanos < b.nanos := by
  obtain ⟨has, han⟩ := ha
  obtain ⟨hbs, hbn⟩ := hb
  rw [lt_iff_parts, nanos, nanos]
  simp only [nanosPerDay, secondsPerDay, Span.perSecond] at *
  omega

theorem IsPlain.le_iff {a b : Instant} (ha : a.IsPlain) (hb : b.IsPlain) :
    a ≤ b ↔ a.nanos ≤ b.nanos := by
  rw [← not_lt, hb.lt_iff ha]
  omega

theorem IsPlain.since_eq {a b : Instant} (ha : a.IsPlain) (hb : b.IsPlain) :
    a.since b = a.nanos - b.nanos := by
  rw [since, TimeOfDay.since, ha.isLeap, hb.isLeap, nanos, nanos]
  simp only [Bool.false_eq_true, and_false, if_false, nanosPerDay, secondsPerDay, Span.perSecond]
  omega

/-- The longer ago, the more time has passed. -/
theorem spanSince_le {now a b : Instant} (hnow : now.IsPlain) (ha : a.IsPlain) (hb : b.IsPlain)
    (h : a ≤ b) : now.spanSince b ≤ now.spanSince a := by
  have hle := (ha.le_iff hb).mp h
  rw [spanSince, spanSince, hnow.since_eq ha, hnow.since_eq hb]
  exact Int.toNat_le_toNat (by omega)

/-! ## Ages -/

/-- The instant that a difference leads to, whether its day has a date or not. -/
def moved (t : Instant) (d : Int) : Instant := ⟨t.day + (t.time.add d).2, (t.time.add d).1⟩

theorem IsPlain.add_eq {t : Instant} (h : t.IsPlain) (d : Int) :
    t.time.add d = TimeOfDay.ofNanos (t.time.second * (Span.perSecond : Int) + t.time.nano + d) := by
  rw [TimeOfDay.add, h.isLeap]
  rfl

theorem IsPlain.moved {t : Instant} (h : t.IsPlain) (d : Int) : (t.moved d).IsPlain := by
  rw [Instant.moved, h.add_eq]
  constructor
  · simp only [TimeOfDay.ofNanos, secondsPerDay]
    omega
  · simp only [TimeOfDay.ofNanos, Span.perSecond]
    omega

theorem IsPlain.nanos_moved {t : Instant} (h : t.IsPlain) (d : Int) :
    (t.moved d).nanos = t.nanos + d := by
  rw [Instant.moved, h.add_eq, nanos, nanos]
  simp only [TimeOfDay.ofNanos, nanosPerDay, secondsPerDay, Span.perSecond]
  omega

/-- What is not before the limit of an age, where there is one. -/
def IsWithin (t : Instant) (age : Span) (now : Instant) : Prop :=
  ∀ limit, age.toDifference?.bind now.sub? = some limit → limit ≤ t

/-- No two dates are further apart than a difference can say. -/
theorem spanSince_le_longest {now t : Instant} (hnow : now.IsPlain) (ht : t.IsPlain)
    (hnow' : now.isRepresentable = true) (ht' : t.isRepresentable = true) :
    now.spanSince t ≤ Span.longestDifference := by
  have hfirst : firstDay = -96465292 := by decide
  have hlast : lastDay = 95026236 := by decide
  have hlongest : Span.longestDifference = 9223372036854775807000000 := by decide
  rw [spanSince, hnow.since_eq ht, hlongest]
  refine Int.toNat_le.mpr ?_
  obtain ⟨hns, hnn⟩ := hnow
  obtain ⟨hts, htn⟩ := ht
  simp only [isRepresentable, Bool.and_eq_true, decide_eq_true_eq, hfirst, hlast] at hnow' ht'
  simp only [nanos, nanosPerDay, secondsPerDay, Span.perSecond] at *
  omega

/-- What is not before the limit of an age is no older than that. -/
theorem IsWithin.spanSince_le {now t : Instant} {age : Span} (h : t.IsWithin age now)
    (hnow : now.IsPlain) (ht : t.IsPlain) (hnow' : now.isRepresentable = true)
    (ht' : t.isRepresentable = true) : now.spanSince t ≤ age := by
  by_cases hage : age ≤ Span.longestDifference
  · have hlimit : now.moved (-age) ≤ t := by
      by_cases hrep : (now.moved (-age)).isRepresentable = true
      · refine h _ ?_
        rw [Span.toDifference?, if_pos hage]
        exact if_pos hrep
      · -- the limit lies before the first date, and so before all that has one
        have hnanos := hnow.nanos_moved (-age)
        obtain ⟨hms, hmn⟩ := hnow.moved (-age)
        obtain ⟨hns, hnn⟩ := hnow
        refine le_of_lt (lt_iff.mpr (.inl ?_))
        simp only [isRepresentable, Bool.and_eq_true, decide_eq_true_eq] at hrep hnow' ht'
        simp only [nanos, nanosPerDay, secondsPerDay, Span.perSecond] at *
        omega
    have hnanos := ((hnow.moved (-age)).le_iff ht).mp hlimit
    rw [hnow.nanos_moved] at hnanos
    rw [spanSince, hnow.since_eq ht]
    exact Int.toNat_le.mpr (by omega)
  · exact Nat.le_trans (spanSince_le_longest hnow ht hnow' ht') (Nat.le_of_not_le hage)

end Instant

end HomeClimate
