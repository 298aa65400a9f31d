import HomeClimate.Proofs.Schedule.Occurrences

/-!
# Nested periods

Of several periods in effect the last in order is taken.  The order does not know the day: it
compares the time of day at which the periods start, and then how long they are.

Of periods that started on one day this takes the one that started last, and of those that
started together the one that ends first, and so a period inside another overrides it
(`Period.Overrides`).  After midnight, though, a period of the day before can be in effect beside
one of the same day.  The one of the day before started at a later time of day, so it comes later
in the order.  It is taken although the other one started after it and may lie inside it.

`bestMatch_prevails` says which period is taken in all cases, and that it overrides the others
exactly if they all started on its day.
-/

namespace HomeClimate

variable {α : Type}

namespace Period

/-! ## The order -/

theorem compareTimes_eq_lt {a b : TimeOfDay} : compareTimes a b = .lt ↔ a < b := by
  rw [compareTimes, Ordering.then_eq_lt, Nat.compare_eq_lt, Nat.compare_eq_eq, Nat.compare_eq_lt]
  rfl

theorem compareTimes_eq_eq {a b : TimeOfDay} : compareTimes a b = .eq ↔ a = b := by
  obtain ⟨second, nano⟩ := a
  obtain ⟨second', nano'⟩ := b
  rw [compareTimes, Ordering.then_eq_eq, Nat.compare_eq_eq, Nat.compare_eq_eq, TimeOfDay.mk.injEq]

/-- So the schedules that are made by insertions are sorted. -/
instance : Std.TransOrd Period :=
  inferInstanceAs (Std.TransCmp (compareLex
    (compareLex (compareOn fun p : Period => p.start.second) (compareOn fun p => p.start.nano))
    (compareLex (fun a b => compareOn Period.duration b a)
      (compareLex (compareOn Period.name) (compareLex (compareOn Period.days)
        (compareOn Period.id))))))

/-- What comes before starts earlier in the day, or at the same time and is no shorter. -/
theorem start_lt_or_duration_le {p q : Period} (h : compare q p = .lt) :
    q.start < p.start ∨ q.start = p.start ∧ p.duration ≤ q.duration := by
  have horder : order q p = .lt := h
  rw [order, Ordering.then_eq_lt, compareTimes_eq_lt, compareTimes_eq_eq] at horder
  refine horder.imp_right fun ⟨hstart, hrest⟩ => ⟨hstart, ?_⟩
  rw [Ordering.then_eq_lt] at hrest
  rcases hrest with hlonger | ⟨hsame, -⟩
  · exact Int.le_of_lt (Int.compare_eq_lt.mp hlonger)
  · exact Int.le_of_eq (Int.compare_eq_eq.mp hsame)

/-! ## The current occurrence -/

/-- When the current occurrence started, which is around a local time if the period is in effect. -/
def startAround (p : Period) (at_ : Instant) : Instant := p.startOn (p.startDay at_)

/-- When the current occurrence ends. -/
def stopAround (p : Period) (at_ : Instant) : Instant := p.stopOn (p.startDay at_)

theorem covers_of_isInEffect {p : Period} (h : p.start ≠ p.stop) {at_ : Instant}
    (hin : p.isInEffect at_ = true) : p.startAround at_ ≤ at_ ∧ at_ < p.stopAround at_ := by
  rw [isInEffect, Bool.and_eq_true, Bool.and_eq_true] at hin
  exact (covers_iff h at_ _).mpr ⟨hin.1.1, rfl⟩

/-- The current occurrence of one period started no earlier than that of another, and if both
started together it ends no later. -/
structure Overrides (p q : Period) (at_ : Instant) : Prop where
  start : q.startAround at_ ≤ p.startAround at_
  stop : p.startAround at_ = q.startAround at_ → p.stopAround at_ ≤ q.stopAround at_

/-- The current occurrence of one period lies inside that of another, and is not all of it. -/
structure IsNestedIn (p q : Period) (at_ : Instant) : Prop where
  start : q.startAround at_ ≤ p.startAround at_
  stop : p.stopAround at_ ≤ q.stopAround at_
  ne : (p.startAround at_, p.stopAround at_) ≠ (q.startAround at_, q.stopAround at_)

/-- What is nested in a period is not overridden by it. -/
theorem IsNestedIn.not_overrides {p q : Period} {at_ : Instant} (h : q.IsNestedIn p at_) :
    ¬ p.Overrides q at_ := by
  intro hover
  have hstart : p.startAround at_ = q.startAround at_ := Instant.le_antisymm h.start hover.start
  have hstop := Instant.le_antisymm (hover.stop hstart) h.stop
  exact h.ne (Prod.ext hstart.symm hstop.symm)

/-- How the period that is taken relates to another one in effect: it started on the same day or on
the day before, and it overrides what started on its day. -/
structure Prevails (p q : Period) (at_ : Instant) : Prop where
  day : p.startDay at_ ≤ q.startDay at_
  start : q.startDay at_ = p.startDay at_ → q.startAround at_ ≤ p.startAround at_
  duration : p.startAround at_ = q.startAround at_ → p.duration ≤ q.duration

theorem Prevails.refl (p : Period) (at_ : Instant) : p.Prevails p at_ :=
  ⟨Int.le_refl _, fun _ => or_self_iff.mp (Instant.le_total _ _), fun _ => Int.le_refl _⟩

/-- Of two periods in effect, the one that starts later in the day did not start on a later day. -/
theorem startDay_le_of_start_le {p q : Period} (hp : p.start ≠ p.stop) (hq : q.start ≠ q.stop)
    {at_ : Instant} (hpin : p.isInEffect at_ = true) (hqin : q.isInEffect at_ = true)
    (h : q.start ≤ p.start) : p.startDay at_ ≤ q.startDay at_ := by
  obtain ⟨hstart, -⟩ := covers_of_isInEffect hp hpin
  obtain ⟨-, hstop⟩ := covers_of_isInEffect hq hqin
  rw [Instant.le_iff] at hstart
  rw [Instant.lt_iff] at hstop
  rcases sameDay_or_acrossMidnight hq with ⟨-, hsame, -⟩ | ⟨hlt, hsame, -⟩
  · simp only [startAround, stopAround, startOn, stopOn, hsame, if_true] at hstart hstop
    omega
  · -- on the day on which it stops, nothing that starts no earlier in the day has started yet
    simp only [startAround, stopAround, startOn, stopOn, hsame, Bool.false_eq_true, if_false,
      TimeOfDay.le_iff, TimeOfDay.lt_iff] at hstart hstop hlt h
    omega

theorem prevails_of_compare {p q : Period} (hp : p.start ≠ p.stop) (hq : q.start ≠ q.stop)
    {at_ : Instant} (hpin : p.isInEffect at_ = true) (hqin : q.isInEffect at_ = true)
    (h : compare q p = .lt) : p.Prevails q at_ := by
  have hle : q.start ≤ p.start := by
    rcases start_lt_or_duration_le h with hlt | ⟨heq, -⟩
    · exact TimeOfDay.le_of_lt hlt
    · rw [heq, TimeOfDay.le_iff]
      omega
  refine ⟨startDay_le_of_start_le hp hq hpin hqin hle, fun hday => ?_, fun hstart => ?_⟩
  · exact Instant.le_iff.mpr (.inr ⟨hday, hle⟩)
  · have htime : p.start = q.start := congrArg Instant.time hstart
    rcases start_lt_or_duration_le h with hlt | ⟨-, hdur⟩
    · rw [htime, TimeOfDay.lt_iff] at hlt
      omega
    · exact hdur

/-- Outside leap seconds the shorter of two that start together ends first. -/
theorem Prevails.overrides {p q : Period} (hp : p.start ≠ p.stop) (hq : q.start ≠ q.stop)
    (hpplain : p.IsPlain) (hqplain : q.IsPlain) {at_ : Instant} (h : p.Prevails q at_)
    (hday : q.startDay at_ = p.startDay at_) : p.Overrides q at_ := by
  refine ⟨h.start hday, fun hstart => ?_⟩
  obtain ⟨-, -, hpstop⟩ := hpplain.nanos_stopOn hp (p.startDay at_)
  obtain ⟨-, -, hqstop⟩ := hqplain.nanos_stopOn hq (q.startDay at_)
  have hdur := h.duration hstart
  have hnanos : (p.startOn (p.startDay at_)).nanos = (q.startOn (q.startDay at_)).nanos :=
    congrArg Instant.nanos hstart
  refine ((hpplain.stopOn _).le_iff (hqplain.stopOn _)).mpr ?_
  omega

/-- What started on a day before cannot override. -/
theorem Overrides.startDay_le {p q : Period} {at_ : Instant} (h : p.Overrides q at_) :
    q.startDay at_ ≤ p.startDay at_ := by
  have hstart := Instant.le_iff.mp h.start
  simp only [startAround, startOn] at hstart
  omega

end Period

/-! ## The period that is taken -/

/-- Of the periods in effect the last in order is taken. -/
theorem eq_or_compare_of_bestMatch? {schedule : ScheduleOf α} (hsorted : Table.Sorted schedule)
    {at_ : Instant} {e : Period × α} (he : bestMatch? schedule at_ = some e) :
    ∀ q ∈ schedule, q.1.isInEffect at_ = true → q = e ∨ compare q.1 e.1 = .lt := by
  intro q hq hin
  obtain ⟨-, later, earlier, hsplit, hnone⟩ := List.find?_eq_some_iff_append.mp he
  have hrev : schedule = earlier.reverse ++ e :: later.reverse := by
    have hreverse := congrArg List.reverse hsplit
    simpa using hreverse
  rw [hrev] at hq hsorted
  rcases List.mem_append.mp hq with hbefore | hafter
  · exact .inr ((List.pairwise_append.mp hsorted).2.2 q hbefore e List.mem_cons_self)
  · rcases List.mem_cons.mp hafter with rfl | hafter
    · exact .inl rfl
    · have hnot := hnone q (List.mem_reverse.mp hafter)
      simp [hin] at hnot

theorem prevails_of_bestMatch? {schedule : ScheduleOf α} (hsorted : Table.Sorted schedule)
    (hne : ∀ e ∈ schedule, e.1.start ≠ e.1.stop) {at_ : Instant} {e : Period × α}
    (he : bestMatch? schedule at_ = some e) :
    ∀ q ∈ schedule, q.1.isInEffect at_ = true → e.1.Prevails q.1 at_ := by
  intro q hq hin
  rcases eq_or_compare_of_bestMatch? hsorted he q hq hin with rfl | hlt
  · exact .refl _ _
  · exact Period.prevails_of_compare (hne e (mem_of_bestMatch? he)) (hne q hq)
      (isInEffect_of_bestMatch? he) hin hlt

/-- A period is taken if one is in effect, and it prevails over all that are in effect.  Outside leap
seconds it overrides those that started on its day, none of which is nested in it.  So it overrides
all of them exactly if they all started on its day. -/
theorem bestMatch_prevails {schedule : ScheduleOf α} (hsorted : Table.Sorted schedule)
    (hne : ∀ e ∈ schedule, e.1.start ≠ e.1.stop) (at_ : Instant) :
    (∀ q ∈ schedule, q.1.isInEffect at_ = true →
      q.1.startAround at_ ≤ at_ ∧ at_ < q.1.stopAround at_) ∧
    ((bestMatch? schedule at_).isSome = true ↔ ∃ q ∈ schedule, q.1.isInEffect at_ = true) ∧
    ∀ e, bestMatch? schedule at_ = some e →
      (e ∈ schedule ∧ e.1.isInEffect at_ = true) ∧
      (∀ q ∈ schedule, q.1.isInEffect at_ = true → e.1.Prevails q.1 at_) ∧
      ((∀ q ∈ schedule, q.1.IsPlain) →
        (∀ q ∈ schedule, q.1.isInEffect at_ = true → q.1.startDay at_ = e.1.startDay at_ →
          e.1.Overrides q.1 at_ ∧ ¬ q.1.IsNestedIn e.1 at_) ∧
        ((∀ q ∈ schedule, q.1.isInEffect at_ = true → e.1.Overrides q.1 at_) ↔
          ∀ q ∈ schedule, q.1.isInEffect at_ = true → q.1.startDay at_ = e.1.startDay at_)) := by
  refine ⟨fun q hq hin => Period.covers_of_isInEffect (hne q hq) hin, isSome_bestMatch?_iff,
    fun e he => ?_⟩
  have hmem := mem_of_bestMatch? he
  have hprevails := prevails_of_bestMatch? hsorted hne he
  refine ⟨⟨hmem, isInEffect_of_bestMatch? he⟩, hprevails, fun hplain => ?_⟩
  have hover : ∀ q ∈ schedule, q.1.isInEffect at_ = true → q.1.startDay at_ = e.1.startDay at_ →
      e.1.Overrides q.1 at_ := fun q hq hin hday =>
    (hprevails q hq hin).overrides (hne e hmem) (hne q hq) (hplain e hmem) (hplain q hq) hday
  refine ⟨fun q hq hin hday => ?_, fun hall q hq hin => ?_, fun hall q hq hin => ?_⟩
  · have hoverq := hover q hq hin hday
    exact ⟨hoverq, fun hnested => hnested.not_overrides hoverq⟩
  · exact Int.le_antisymm (hall q hq hin).startDay_le (hprevails q hq hin).day
  · exact hover q hq hin (hall q hq hin)

/-- Deep in the night, two periods that both started the evening before. -/
theorem bestMatch_prevails_at_one :
    let night : Period := ⟨"night", "night", .ofClock 22 0 0 0, .ofClock 6 0 0 0, 127⟩
    let deep : Period := ⟨"deep", "deep", .ofClock 23 0 0 0, .ofClock 5 0 0 0, 127⟩
    let schedule : ScheduleOf Nat := Table.ofList [(deep, 16), (night, 18)]
    let one : Instant := ⟨4, .ofClock 1 0 0 0⟩
    Table.Sorted schedule ∧ (∀ e ∈ schedule, e.1.start ≠ e.1.stop) ∧
      (∀ e ∈ schedule, e.1.IsPlain) ∧ bestMatch? schedule one = some (deep, 16) ∧
      deep.IsNestedIn night one ∧ deep.Overrides night one := by
  intro night deep schedule one
  have hsorted : Table.Sorted schedule := Table.sorted_ofList _
  have hschedule : schedule = [(night, 18), (deep, 16)] := by decide +kernel
  have hne : ∀ e ∈ schedule, e.1.start ≠ e.1.stop := by
    rw [hschedule]
    decide
  have hplain : ∀ e ∈ schedule, e.1.IsPlain := by
    rw [hschedule]
    decide
  have hbest : bestMatch? schedule one = some (deep, 16) := by decide +kernel
  obtain ⟨-, -, hall⟩ := bestMatch_prevails hsorted hne one
  obtain ⟨-, -, hday⟩ := hall _ hbest
  have hnight : (night, 18) ∈ schedule := by
    rw [hschedule]
    exact List.mem_cons_self
  refine ⟨hsorted, hne, hplain, hbest, ⟨by decide, by decide, by decide⟩, ?_⟩
  exact ((hday hplain).1 _ hnight (by decide +kernel) (by decide +kernel)).1

/-- A period of the early morning lies inside that of the night and started last, and does not
override it. -/
theorem early_not_taken :
    let night : Period := ⟨"night", "night", .ofClock 22 0 0 0, .ofClock 6 0 0 0, 127⟩
    let early : Period := ⟨"early", "early", .ofClock 0 30 0 0, .ofClock 2 0 0 0, 127⟩
    let schedule : ScheduleOf Nat := Table.ofList [(night, 18), (early, 22)]
    let one : Instant := ⟨4, .ofClock 1 0 0 0⟩
    (∃ v, (early, v) ∈ schedule) ∧ early.isInEffect one = true ∧ early.IsNestedIn night one ∧
      bestMatch? schedule one = some (night, 18) ∧ ¬ night.Overrides early one := by
  intro night early schedule one
  have hschedule : schedule = [(early, 22), (night, 18)] := by decide +kernel
  have hnested : early.IsNestedIn night one := ⟨by decide, by decide, by decide⟩
  refine ⟨⟨22, ?_⟩, by decide +kernel, hnested, by decide +kernel, hnested.not_overrides⟩
  rw [hschedule]
  exact List.mem_cons_self

/-- In a leap second the one of two that ends later can be as long as the other, and be taken. -/
example :
    let sooner : Period := ⟨"a", "a", .ofClock 8 0 0 0, .ofClock 8 30 59 1500000000, 127⟩
    let later : Period := ⟨"b", "b", .ofClock 8 0 0 0, .ofClock 8 31 0 500000000, 127⟩
    sooner.stop < later.stop ∧ sooner.duration = later.duration ∧
      bestMatch? (Table.ofList [(sooner, 1), (later, 2)]) ⟨4, .ofClock 8 10 0 0⟩ =
        some (later, 2) := by
  decide +kernel

end HomeClimate
