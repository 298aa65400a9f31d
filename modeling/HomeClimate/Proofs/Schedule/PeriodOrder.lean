import HomeClimate.Proofs.Schedule.Nesting

/-!
# Periods as keys

A schedule is a table with periods for keys, so it keeps two periods apart only if their order
does.  The order is total and transitive.  It compares all of a period but the end, for which the
duration stands.

Outside leap seconds the start and the duration determine the end, and no two different periods
are equal in the order.  A leap second is written as the second before it with more nanoseconds,
and a time of day before it is subtracted as if the clock had gone on: 08:30:60.5 and 08:31:00.5
are equally far from 08:00.  Two periods that differ in such ends and in nothing else share a place
in the order (`Period.SharesPlace`), and of the two a schedule keeps the one that was put into it
first.

`order_tells_apart` says that these are all the periods that are equal in the order, and that a
schedule loses a period exactly if two of them were put into it.
-/

namespace HomeClimate

variable {α ν : Type}

namespace Period

/-! ## Periods that are equal in the order -/

/-- Two periods differ in their ends and in nothing that the order compares. -/
structure SharesPlace (p q : Period) : Prop where
  start : p.start = q.start
  duration : p.duration = q.duration
  name : p.name = q.name
  days : p.days = q.days
  id : p.id = q.id
  stop : p.stop ≠ q.stop

theorem order_eq_eq_iff_parts {p q : Period} :
    order p q = .eq ↔ p.start = q.start ∧ p.duration = q.duration ∧ p.name = q.name ∧
      p.days = q.days ∧ p.id = q.id := by
  rw [order, Ordering.then_eq_eq, Ordering.then_eq_eq, Ordering.then_eq_eq, Ordering.then_eq_eq,
    compareTimes_eq_eq, Int.compare_eq_eq, Std.LawfulEqCmp.compare_eq_iff_eq,
    Nat.compare_eq_eq, Std.LawfulEqCmp.compare_eq_iff_eq, eq_comm (a := q.duration)]

theorem order_eq_eq {p q : Period} : order p q = .eq ↔ p = q ∨ p.SharesPlace q := by
  rw [order_eq_eq_iff_parts]
  constructor
  · rintro ⟨hstart, hduration, hname, hdays, hid⟩
    by_cases hstop : p.stop = q.stop
    · left
      obtain ⟨id, name, start, stop, days⟩ := p
      cases hstart
      cases hname
      cases hdays
      cases hid
      cases hstop
      rfl
    · exact .inr ⟨hstart, hduration, hname, hdays, hid, hstop⟩
  · rintro (rfl | hshares)
    · exact ⟨rfl, rfl, rfl, rfl, rfl⟩
    · exact ⟨hshares.start, hshares.duration, hshares.name, hshares.days, hshares.id⟩

/-- Outside leap seconds the start and the duration determine the end. -/
theorem IsPlain.stop_eq {p q : Period} (hp : p.IsPlain) (hq : q.IsPlain) (hpne : p.start ≠ p.stop)
    (hqne : q.start ≠ q.stop) (hstart : p.start = q.start) (hduration : p.duration = q.duration) :
    p.stop = q.stop := by
  have hsame : p.stopOn 0 = q.stopOn 0 := by
    rw [← hp.moved_duration hpne, ← hq.moved_duration hqne, Period.startOn, Period.startOn, hstart,
      hduration]
  exact congrArg Instant.time hsame

theorem IsPlain.not_sharesPlace {p q : Period} (hp : p.IsPlain) (hq : q.IsPlain)
    (hpmade : p.IsMade ν) (hqmade : q.IsMade ν) : ¬ p.SharesPlace q := by
  -- an end that is the start would be the next day's, and is refused
  obtain ⟨_, _, _, _, _, hpcreate⟩ := hpmade
  obtain ⟨_, _, _, _, _, hqcreate⟩ := hqmade
  intro hshares
  exact hshares.stop (hp.stop_eq hq (start_ne_stop_of_create hpcreate)
    (start_ne_stop_of_create hqcreate) hshares.start hshares.duration)

/-! ## Schedules -/

/-- A schedule keeps all the periods that are put into it exactly if no two of them share a
place. -/
theorem forall_kept_iff {entries : List (Period × α)} :
    (∀ e ∈ entries, e.1 ∈ (Table.ofList entries).keys) ↔
      ∀ e ∈ entries, ∀ e' ∈ entries, ¬ e.1.SharesPlace e'.1 := by
  rw [Table.forall_mem_keys_ofList_iff]
  refine forall₂_congr fun e _ => forall₂_congr fun e' _ => ?_
  have heq : compare e.1 e'.1 = .eq ↔ e.1 = e'.1 ∨ e.1.SharesPlace e'.1 := order_eq_eq
  rw [heq]
  constructor
  · intro h hshares
    exact hshares.stop (congrArg Period.stop (h (.inr hshares)))
  · intro h hor
    exact hor.resolve_right h

/-- Periods are totally ordered.  Two of them are equal in the order if they are the same or share a
place, which takes a leap second, and a schedule keeps all periods exactly if no two share a
place. -/
theorem order_tells_apart :
    (∀ p q : Period, order q p = (order p q).swap) ∧
    (∀ p q r : Period, (order p q).isLE → (order q r).isLE → (order p r).isLE) ∧
    (∀ p q : Period, order p q = .eq ↔ p = q ∨ p.SharesPlace q) ∧
    (∀ p q : Period, p.IsMade ν → q.IsMade ν → p.IsPlain → q.IsPlain →
      (order p q = .eq ↔ p = q)) ∧
    ∀ entries : List (Period × α),
      ((∀ e ∈ entries, e.1 ∈ (Table.ofList entries).keys) ↔
        ∀ e ∈ entries, ∀ e' ∈ entries, ¬ e.1.SharesPlace e'.1) ∧
      ((∀ e ∈ entries, e.1.IsMade ν ∧ e.1.IsPlain) →
        ∀ e ∈ entries, e.1 ∈ (Table.ofList entries).keys) := by
  refine ⟨fun p q => ?_, fun p q r hpq hqr => ?_, fun p q => order_eq_eq,
    fun p q hpmade hqmade hp hq => ?_, fun entries => ⟨forall_kept_iff, fun hentries => ?_⟩⟩
  · exact Std.OrientedOrd.eq_swap (a := q) (b := p)
  · exact Std.TransOrd.isLE_trans (a := p) (b := q) hpq hqr
  · rw [order_eq_eq, or_iff_left (hp.not_sharesPlace hq hpmade hqmade)]
  · refine forall_kept_iff.mpr fun e he e' he' => ?_
    obtain ⟨hmade, hplain⟩ := hentries e he
    obtain ⟨hmade', hplain'⟩ := hentries e' he'
    exact hplain.not_sharesPlace hplain' hmade hmade'

/-- Two periods that differ in their ends by less than a second, and a schedule of both. -/
theorem order_tells_apart_ends :
    let sooner : Period := ⟨"a", "a", .ofClock 8 0 0 0, .ofClock 8 30 59 500000000, 127⟩
    let later : Period := ⟨"a", "a", .ofClock 8 0 0 0, .ofClock 8 31 0 0, 127⟩
    let entries : List (Period × Nat) := [(sooner, 1), (later, 2)]
    sooner.IsMade Rat ∧ later.IsMade Rat ∧ sooner.IsPlain ∧ later.IsPlain ∧
      order later sooner = .lt ∧ ¬ order later sooner = .eq ∧
      ∀ e ∈ entries, e.1 ∈ (Table.ofList entries).keys := by
  intro sooner later entries
  have hname : Text.isBlankText "a" = false := by decide +kernel
  have hsooner : sooner.IsMade Rat := by
    refine ⟨sooner.id, sooner.name, sooner.start, sooner.stop, sooner.days, ?_⟩
    rw [create, if_neg (by rw [hname]; decide), if_neg (by decide), if_neg (by decide)]
  have hlater : later.IsMade Rat := by
    refine ⟨later.id, later.name, later.start, later.stop, later.days, ?_⟩
    rw [create, if_neg (by rw [hname]; decide), if_neg (by decide), if_neg (by decide)]
  have hplain : sooner.IsPlain ∧ later.IsPlain := by decide
  obtain ⟨-, -, -, hapart, hkept⟩ := order_tells_apart (ν := Rat) (α := Nat)
  have hne : ¬ order later sooner = .eq := by
    rw [hapart later sooner hlater hsooner hplain.2 hplain.1]
    decide
  refine ⟨hsooner, hlater, hplain.1, hplain.2, by decide, hne, (hkept entries).2 fun e he => ?_⟩
  rcases List.mem_pair.mp he with rfl | rfl
  · exact ⟨hsooner, hplain.1⟩
  · exact ⟨hlater, hplain.2⟩

/-- Two periods that are read from texts, one ending in a leap second and one after it.  A schedule
of both has but one, and at the end of the other nothing is in effect. -/
theorem order_merges_ends :
    let sooner : Period := ⟨"a", "a", .ofClock 8 0 0 0, .ofClock 8 30 59 1500000000, 127⟩
    let later : Period := ⟨"a", "a", .ofClock 8 0 0 0, .ofClock 8 31 0 500000000, 127⟩
    let schedule : ScheduleOf Nat := Table.ofList [(sooner, 1), (later, 2)]
    let atEnd : Instant := ⟨4, .ofClock 8 31 0 200000000⟩
    (read "a" "a" "08:00" "08:30:60.5" "......." : Except (ScheduleError Rat) Period).toOption =
        some sooner ∧
      (read "a" "a" "08:00" "08:31:00.5" "......." : Except (ScheduleError Rat) Period).toOption =
        some later ∧
      sooner ≠ later ∧ order sooner later = .eq ∧ schedule = [(sooner, 2)] ∧
      later.isInEffect atEnd = true ∧ bestMatch? schedule atEnd = none := by
  decide +kernel

end Period

end HomeClimate
