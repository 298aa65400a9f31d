import HomeClimate.Proofs.Schedule.Track
import HomeClimate.Proofs.Time.Elapsed

/-!
# Occurrences of a period

A period occurs on each of its days.  An occurrence is an interval on the line of instants: it
begins on the day, and it ends on the same day or, if the period goes over midnight, on the
next (`Period.startOn`, `Period.stopOn`).

Whether a period is in effect is found without this line, by a test of the time of day, a test
of the wrap and a test of one bit.  The three tests find the one occurrence that there can be
(`covers_iff`).  So a period is in effect exactly in its occurrences (`isInEffect_iff_covers`),
leap seconds included.

Outside leap seconds an occurrence ends one duration after its start (`moved_duration`), so it
can be told from its start and its duration alone (`IsPlain.isInEffect_iff`).  This takes a date
that has a day before it: what began before the first day is not found.  `bestMatch_occurs` says it
of the period that is taken out of a schedule.
-/

namespace HomeClimate

variable {α ν : Type}

namespace TimeOfDay

theorem lt_or_gt_of_ne {a b : TimeOfDay} (h : a ≠ b) : a < b ∨ b < a := by
  obtain ⟨second, nano⟩ := a
  obtain ⟨second', nano'⟩ := b
  have hparts : ¬ (second = second' ∧ nano = nano') := by
    rintro ⟨rfl, rfl⟩
    exact h rfl
  rw [lt_iff, lt_iff]
  dsimp only
  omega

theorem le_of_lt {a b : TimeOfDay} (h : a < b) : a ≤ b := by
  rw [lt_iff] at h
  rw [le_iff]
  omega

/-- A time of day that is not in a leap second. -/
structure IsPlain (t : TimeOfDay) : Prop where
  second : t.second < secondsPerDay
  nano : t.nano < Span.perSecond

instance (t : TimeOfDay) : Decidable t.IsPlain :=
  decidable_of_iff (t.second < secondsPerDay ∧ t.nano < Span.perSecond)
    ⟨fun h => ⟨h.1, h.2⟩, fun h => ⟨h.second, h.nano⟩⟩

end TimeOfDay

namespace Period

/-! ## The interval -/

/-- When the occurrence on a day starts. -/
def startOn (p : Period) (day : Int) : Instant := ⟨day, p.start⟩

/-- When the occurrence on a day ends; this time is not in it. -/
def stopOn (p : Period) (day : Int) : Instant := ⟨if p.isSameDay then day else day + 1, p.stop⟩

theorem start_ne_stop_of_create {id name : String} {start stop : TimeOfDay} {days : Nat}
    {p : Period} (h : (create id name start stop days : Except (ScheduleError ν) Period) = .ok p) :
    p.start ≠ p.stop := by
  rw [create] at h
  split at h
  · cases h
  · split at h
    · cases h
    next hne =>
      split at h
      · cases h
      · cases h
        exact hne

/-- A period either stays within a day or goes over midnight. -/
theorem sameDay_or_acrossMidnight {p : Period} (h : p.start ≠ p.stop) :
    (p.start < p.stop ∧ p.isSameDay = true ∧ p.isAcrossMidnight = false) ∨
      (p.stop < p.start ∧ p.isSameDay = false ∧ p.isAcrossMidnight = true) := by
  rw [isSameDay, isAcrossMidnight]
  rcases TimeOfDay.lt_or_gt_of_ne h with hlt | hlt
  · have hnot : ¬ p.stop < p.start := TimeOfDay.not_lt.mpr (TimeOfDay.le_of_lt hlt)
    exact .inl ⟨hlt, decide_eq_true hlt, decide_eq_false hnot⟩
  · have hnot : ¬ p.start < p.stop := TimeOfDay.not_lt.mpr (TimeOfDay.le_of_lt hlt)
    exact .inr ⟨hlt, decide_eq_false hnot, decide_eq_true hlt⟩

/-- The one occurrence that can cover a local time is that on the day which is looked up, and it
does so exactly if it includes the time of day. -/
theorem covers_iff {p : Period} (h : p.start ≠ p.stop) (at_ : Instant) (day : Int) :
    (p.startOn day ≤ at_ ∧ at_ < p.stopOn day) ↔
      (p.includes at_.time = true ∧ day = p.startDay at_) := by
  rcases sameDay_or_acrossMidnight h with ⟨hlt, hsame, hacross⟩ | ⟨hlt, hsame, hacross⟩
  · simp only [includes, startDay, startOn, stopOn, hsame, hacross, Instant.le_iff, Instant.lt_iff,
      TimeOfDay.le_iff, TimeOfDay.lt_iff, Bool.false_and, Bool.and_eq_true, decide_eq_true_eq,
      if_true, if_false, Bool.false_eq_true] at hlt ⊢
    omega
  · simp only [includes, startDay, startOn, stopOn, hsame, hacross, Instant.le_iff, Instant.lt_iff,
      TimeOfDay.le_iff, TimeOfDay.lt_iff, Bool.true_and, Bool.or_eq_true, decide_eq_true_eq,
      if_false, Bool.false_eq_true] at hlt ⊢
    split <;> omega

/-- A period is in effect in the occurrences on its days, leap seconds or not. -/
theorem isInEffect_iff_covers {p : Period} (h : p.start ≠ p.stop) (at_ : Instant) :
    p.isInEffect at_ = true ↔ ∃ day, firstDay ≤ day ∧ p.includesDay day = true ∧
      p.startOn day ≤ at_ ∧ at_ < p.stopOn day := by
  simp only [covers_iff h]
  rw [isInEffect, Bool.and_eq_true, Bool.and_eq_true, decide_eq_true_eq]
  constructor
  · rintro ⟨⟨hincludes, hfirst⟩, hday⟩
    exact ⟨p.startDay at_, hfirst, hday, hincludes, rfl⟩
  · rintro ⟨day, hfirst, hday, hincludes, rfl⟩
    exact ⟨⟨hincludes, hfirst⟩, hday⟩

/-! ## The duration -/

/-- A period that neither starts nor ends in a leap second. -/
structure IsPlain (p : Period) : Prop where
  start : p.start.IsPlain
  stop : p.stop.IsPlain

instance (p : Period) : Decidable p.IsPlain :=
  decidable_of_iff (p.start.IsPlain ∧ p.stop.IsPlain)
    ⟨fun h => ⟨h.1, h.2⟩, fun h => ⟨h.start, h.stop⟩⟩

theorem IsPlain.startOn {p : Period} (hp : p.IsPlain) (day : Int) : (p.startOn day).IsPlain :=
  ⟨hp.start.second, hp.start.nano⟩

theorem IsPlain.stopOn {p : Period} (hp : p.IsPlain) (day : Int) : (p.stopOn day).IsPlain :=
  ⟨hp.stop.second, hp.stop.nano⟩

theorem IsPlain.duration_eq {p : Period} (hp : p.IsPlain) (h : p.start ≠ p.stop) :
    p.duration = ((p.stop.second : Int) - p.start.second) * Span.perSecond +
      (p.stop.nano - p.start.nano) + if p.isSameDay then (0 : Int) else nanosPerDay := by
  have hleap : p.start.isLeap = false := (hp.startOn 0).isLeap
  have hleap' : p.stop.isLeap = false := (hp.stopOn 0).isLeap
  have hraw : p.stop.since p.start =
      ((p.stop.second : Int) - p.start.second) * Span.perSecond + (p.stop.nano - p.start.nano) := by
    simp [TimeOfDay.since, hleap, hleap']
  obtain ⟨hsecond, hnano⟩ := hp.start
  obtain ⟨hsecond', hnano'⟩ := hp.stop
  rw [duration, hraw]
  simp only [Span.perSecond] at hnano hnano'
  rcases sameDay_or_acrossMidnight h with ⟨hlt, hsame, -⟩ | ⟨hlt, hsame, -⟩
  · rw [TimeOfDay.lt_iff] at hlt
    rw [hsame, if_pos rfl, Int.add_zero]
    refine if_neg ?_
    simp only [Span.perSecond]
    omega
  · rw [TimeOfDay.lt_iff] at hlt
    rw [hsame, if_neg Bool.false_ne_true]
    refine if_pos ?_
    simp only [Span.perSecond]
    omega

/-- Outside leap seconds the duration is less than a day, and it leads from the start of an
occurrence to its end. -/
theorem IsPlain.nanos_stopOn {p : Period} (hp : p.IsPlain) (h : p.start ≠ p.stop) (day : Int) :
    0 < p.duration ∧ p.duration < nanosPerDay ∧
      (p.stopOn day).nanos = (p.startOn day).nanos + p.duration := by
  obtain ⟨hsecond, hnano⟩ := hp.start
  obtain ⟨hsecond', hnano'⟩ := hp.stop
  rw [hp.duration_eq h]
  simp only [Instant.nanos, Period.startOn, Period.stopOn, nanosPerDay, secondsPerDay, Span.perSecond] at *
  rcases sameDay_or_acrossMidnight h with ⟨hlt, hsame, -⟩ | ⟨hlt, hsame, -⟩
  · rw [TimeOfDay.lt_iff] at hlt
    rw [hsame, if_pos rfl, if_pos rfl]
    omega
  · rw [TimeOfDay.lt_iff] at hlt
    rw [hsame, if_neg Bool.false_ne_true, if_neg Bool.false_ne_true]
    omega

theorem IsPlain.moved_duration {p : Period} (hp : p.IsPlain) (h : p.start ≠ p.stop) (day : Int) :
    (p.startOn day).moved p.duration = p.stopOn day := by
  have hnanos := (hp.startOn day).nanos_moved p.duration
  rw [← (hp.nanos_stopOn h day).2.2] at hnanos
  have hmoved := (hp.startOn day).moved p.duration
  refine Instant.le_antisymm ?_ ?_
  · exact (hmoved.le_iff (hp.stopOn day)).mpr (Int.le_of_eq hnanos)
  · exact ((hp.stopOn day).le_iff hmoved).mpr (Int.le_of_eq hnanos.symm)

/-! ## The period in effect -/

/-- A local time is in an occurrence of the period, which lasts one duration. -/
def OccursAt (p : Period) (at_ : Instant) : Prop :=
  ∃ day, p.includesDay day = true ∧ p.startOn day ≤ at_ ∧
    at_ < (p.startOn day).moved p.duration

/-- Outside leap seconds, and where there is a day before, a period is in effect exactly in its
occurrences. -/
theorem IsPlain.isInEffect_iff {p : Period} (hp : p.IsPlain) (h : p.start ≠ p.stop)
    {at_ : Instant} (hday : firstDay < at_.day) : p.isInEffect at_ = true ↔ p.OccursAt at_ := by
  simp only [isInEffect_iff_covers h, OccursAt, hp.moved_duration h]
  constructor
  · rintro ⟨day, -, hoccurs⟩
    exact ⟨day, hoccurs⟩
  · rintro ⟨day, hincludes, hcovers⟩
    refine ⟨day, ?_, hincludes, hcovers⟩
    obtain ⟨-, rfl⟩ := (covers_iff h at_ day).mp hcovers
    rw [startDay]
    split <;> omega

/-- A period that was made from its parts, so that it does not end when it starts. -/
def IsMade (ν : Type) (p : Period) : Prop :=
  ∃ id name start stop days,
    (create id name start stop days : Except (ScheduleError ν) Period) = .ok p

end Period

theorem isInEffect_of_bestMatch? {schedule : ScheduleOf α} {at_ : Instant} {e : Period × α}
    (h : bestMatch? schedule at_ = some e) : e.1.isInEffect at_ = true := by
  exact List.find?_some (p := fun e : Period × α => e.1.isInEffect at_) h

theorem isSome_bestMatch?_iff {schedule : ScheduleOf α} {at_ : Instant} :
    (bestMatch? schedule at_).isSome = true ↔ ∃ e ∈ schedule, e.1.isInEffect at_ = true := by
  rw [bestMatch?, List.find?_isSome]
  simp only [List.mem_reverse]

/-- A period is in effect exactly in its occurrences, each of which begins on one of its days and is
shorter than a day.  There is a best match exactly if some period of the schedule occurs, and then it
is one that occurs, with what it stands for. -/
theorem bestMatch_occurs {at_ : Instant} (hday : firstDay < at_.day) :
    (∀ p : Period, p.IsMade ν → p.IsPlain → 0 < p.duration ∧ p.duration < nanosPerDay ∧
        (p.isInEffect at_ = true ↔ p.OccursAt at_)) ∧
      ∀ schedule : ScheduleOf α, (∀ e ∈ schedule, e.1.IsMade ν ∧ e.1.IsPlain) →
        ((bestMatch? schedule at_).isSome = true ↔ ∃ e ∈ schedule, e.1.OccursAt at_) ∧
          ∀ e, bestMatch? schedule at_ = some e → e ∈ schedule ∧ e.1.OccursAt at_ := by
  have hperiod : ∀ p : Period, p.IsMade ν → p.IsPlain → 0 < p.duration ∧
      p.duration < nanosPerDay ∧ (p.isInEffect at_ = true ↔ p.OccursAt at_) := by
    rintro p ⟨id, name, start, stop, days, hcreate⟩ hp
    have hne := Period.start_ne_stop_of_create hcreate
    obtain ⟨hpos, hshort, -⟩ := hp.nanos_stopOn hne 0
    exact ⟨hpos, hshort, hp.isInEffect_iff hne hday⟩
  refine ⟨hperiod, fun schedule hschedule => ⟨?_, fun e he => ?_⟩⟩
  · rw [isSome_bestMatch?_iff]
    refine exists_congr fun e => and_congr_right fun he => ?_
    obtain ⟨hmade, hp⟩ := hschedule e he
    exact (hperiod e.1 hmade hp).2.2
  · have hmem := mem_of_bestMatch? he
    obtain ⟨hmade, hp⟩ := hschedule e hmem
    exact ⟨hmem, (hperiod e.1 hmade hp).2.2.mp (isInEffect_of_bestMatch? he)⟩

/-- A party of Sunday night, early on Monday. -/
theorem bestMatch_occurs_on_monday :
    let party : Period := ⟨"party", "party", .ofClock 22 0 0 0, .ofClock 2 0 0 0, 64⟩
    let schedule : ScheduleOf Nat := [(party, 24)]
    let monday : Instant := ⟨4, .ofClock 1 59 59 999999999⟩
    firstDay < monday.day ∧ (∀ e ∈ schedule, e.1.IsMade Rat ∧ e.1.IsPlain) ∧
      bestMatch? schedule monday = some (party, 24) ∧ party.OccursAt monday ∧
      ¬ party.OccursAt ⟨4, .ofClock 23 0 0 0⟩ := by
  intro party schedule monday
  have hday : firstDay < monday.day := by decide
  have hname : Text.isBlankText "party" = false := by decide +kernel
  have hmade : party.IsMade Rat := by
    refine ⟨party.id, party.name, party.start, party.stop, party.days, ?_⟩
    rw [Period.create, if_neg (by rw [hname]; decide), if_neg (by decide), if_neg (by decide)]
  have hplain : party.IsPlain := by decide
  have hschedule : ∀ e ∈ schedule, e.1.IsMade Rat ∧ e.1.IsPlain := by
    rintro e he
    cases List.mem_singleton.mp he
    exact ⟨hmade, hplain⟩
  have hbest : bestMatch? schedule monday = some (party, 24) := by decide +kernel
  obtain ⟨hperiod, -⟩ := bestMatch_occurs (ν := Rat) (α := Nat)
    (show firstDay < (⟨4, .ofClock 23 0 0 0⟩ : Instant).day from hday)
  obtain ⟨-, hfound⟩ := (bestMatch_occurs (ν := Rat) hday).2 schedule hschedule
  refine ⟨hday, hschedule, hbest, (hfound _ hbest).2, ?_⟩
  rw [← (hperiod party hmade hplain).2.2]
  decide +kernel

end HomeClimate
