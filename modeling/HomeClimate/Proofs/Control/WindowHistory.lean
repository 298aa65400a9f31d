import HomeClimate.Proofs.Control.SlidingArea
import HomeClimate.Proofs.Runs
import HomeClimate.Proofs.Time.Elapsed

/-!
# What a window has seen

A window is called in two ways: a sample is appended, or all samples are thrown away.  What
it has *seen* are the samples since they were last thrown away (`WindowCall.seen`).

Whether a sample is past is a matter of two times, its own and that of the sample with
which the window ends.

* What was before a sample that is past is past too (`isPast_of_le`).
* Nothing is past in a window that ends no later (`not_isPast_of_le`).
* What is past stays past, as long as no leap second is about
  (`Instant.IsOrdinary.isPast_later`).  The start of a window that ends in a leap second
  may be later than that of a window that ends after it.  So what has left the one may
  belong into the other.
-/

namespace HomeClimate

variable {ν : Type}

/-! ## Calls -/

/-- A call of a window. -/
inductive WindowCall (ν : Type) where
  /-- A sample comes. -/
  | append (now : Instant) (value : ν)
  /-- All samples are thrown away. -/
  | reset

namespace WindowCall

/-- The sample that comes with a call. -/
def sample? : WindowCall ν → Option (Sample ν)
  | append now value => some (now, value)
  | reset => none

/-- All samples that come with some calls. -/
def samples (calls : List (WindowCall ν)) : List (Sample ν) := calls.filterMap sample?

/-- The samples that have been seen after one more call. -/
def seenAfter (seen : List (Sample ν)) : WindowCall ν → List (Sample ν)
  | append now value => seen ++ [(now, value)]
  | reset => []

/-- The samples since all were last thrown away. -/
def seen (calls : List (WindowCall ν)) : List (Sample ν) := calls.foldl seenAfter []

/-- The times of the samples since all were last thrown away. -/
def times (calls : List (WindowCall ν)) : List Instant := (seen calls).map Prod.fst

theorem seen_concat (calls : List (WindowCall ν)) (call : WindowCall ν) :
    seen (calls ++ [call]) = seenAfter (seen calls) call := by
  rw [seen, List.foldl_append]
  rfl

theorem seen_suffix (calls : List (WindowCall ν)) : seen calls <:+ samples calls := by
  induction calls using List.reverseRecOn with
  | nil => exact List.suffix_refl []
  | append_singleton calls call ih =>
      rw [seen_concat, samples, filterMap_concat]
      cases call with
      | append now value =>
          obtain ⟨before, hbefore⟩ := ih
          refine ⟨before, ?_⟩
          rw [seenAfter, ← List.append_assoc, hbefore]
          rfl
      | reset => exact List.nil_suffix

/-- What comes in order is seen in order. -/
theorem seen_pairwise {before : Sample ν → Sample ν → Prop} {calls : List (WindowCall ν)}
    (h : (samples calls).Pairwise before) : (seen calls).Pairwise before :=
  h.sublist (seen_suffix calls).sublist

theorem times_pairwise {before : Instant → Instant → Prop} {calls : List (WindowCall ν)}
    (h : (samples calls).Pairwise fun s s' => before s.1 s'.1) : (times calls).Pairwise before :=
  List.pairwise_map.mpr (seen_pairwise h)

theorem forall_times {holds : Instant → Prop} {calls : List (WindowCall ν)}
    (h : ∀ s ∈ samples calls, holds s.1) : ∀ t ∈ times calls, holds t :=
  List.forall_mem_map.mpr fun s hs => h s ((seen_suffix calls).mem hs)

theorem times_append (calls : List (WindowCall ν)) (now : Instant) (value : ν) :
    times (calls ++ [.append now value]) = times calls ++ [now] := by
  rw [times, seen_concat, seenAfter, List.map_append]
  rfl

theorem last_mem_times {calls : List (WindowCall ν)} {last : Sample ν}
    (h : (seen calls).getLast? = some last) : last.1 ∈ times calls :=
  List.mem_map_of_mem (List.mem_of_getLast? h)

/-- No sample is later than the last. -/
theorem le_last {calls : List (WindowCall ν)}
    (horder : (samples calls).Pairwise fun s s' => s.1 < s'.1) {last : Sample ν}
    (h : (seen calls).getLast? = some last) : ∀ t ∈ times calls, t ≤ last.1 := by
  have hseen := seen_pairwise horder
  obtain ⟨before, hbefore⟩ := List.getLast?_eq_some_iff.mp h
  rw [times, hbefore]
  rw [hbefore] at hseen
  refine List.forall_mem_map.mpr fun s hs => ?_
  rcases List.mem_append.mp hs with hs | hs
  · exact Instant.le_of_lt ((List.pairwise_append.mp hseen).2.2 s hs last List.mem_cons_self)
  · rw [List.mem_singleton.mp hs]
    exact Instant.le_refl last.1

end WindowCall

/-! ## The past -/

theorem windowStart?_eq (now : Instant) (span : Span) :
    windowStart? now span =
      if (now.moved (-span.toDifference)).isRepresentable then some (now.moved (-span.toDifference))
      else none := rfl

theorem isPast_iff {span : Span} {now t : Instant} :
    isPast span now t = true ↔ ∃ start, windowStart? now span = some start ∧ t < start := by
  rw [isPast]
  cases windowStart? now span with
  | none => simp
  | some start => simp

/-- What was before is past too. -/
theorem isPast_of_le {span : Span} {now t t' : Instant} (h : isPast span now t' = true)
    (hle : t ≤ t') : isPast span now t = true := by
  obtain ⟨start, hstart, hlt⟩ := isPast_iff.mp h
  exact isPast_iff.mpr ⟨start, hstart, Instant.lt_of_le_of_lt hle hlt⟩

/-- What comes after what is not past is not past either. -/
theorem not_isPast_after {span : Span} {now t t' : Instant} (h : isPast span now t = false)
    (hle : t ≤ t') : isPast span now t' = false :=
  Bool.eq_false_iff.mpr fun hpast => Bool.eq_false_iff.mp h (isPast_of_le hpast hle)

/-- Nothing is past in a window that ends no later. -/
theorem not_isPast_of_le (span : Span) {now t : Instant} (h : now.time.isValid = true)
    (hle : now ≤ t) : isPast span now t = false :=
  not_isPast_after (not_isPast_self span h) hle

/-- A time that has a date and is not in a leap second. -/
structure Instant.IsOrdinary (t : Instant) : Prop where
  plain : t.IsPlain
  date : t.isRepresentable = true

instance (t : Instant) : Decidable t.IsOrdinary :=
  decidable_of_iff (t.IsPlain ∧ t.isRepresentable = true)
    ⟨fun h => ⟨h.1, h.2⟩, fun h => ⟨h.plain, h.date⟩⟩

namespace Instant

/-- The start of a window does not go back. -/
theorem IsOrdinary.windowStart?_later {now now' start : Instant} (hnow : now.IsOrdinary)
    (hnow' : now'.IsOrdinary) (hle : now ≤ now') {span : Span}
    (h : windowStart? now span = some start) :
    ∃ start', windowStart? now' span = some start' ∧ start ≤ start' := by
  rw [windowStart?_eq] at h
  split at h
  next hdate =>
    have hstart : start = now.moved (-span.toDifference) := (Option.some.inj h).symm
    have hnanos := (hnow.plain.le_iff hnow'.plain).mp hle
    have hforward : start ≤ now'.moved (-span.toDifference) := by
      rw [hstart, (hnow.plain.moved _).le_iff (hnow'.plain.moved _), hnow.plain.nanos_moved,
        hnow'.plain.nanos_moved]
      omega
    have hback : now'.moved (-span.toDifference) ≤ now' := by
      have := span.toDifference_nonneg
      rw [(hnow'.plain.moved _).le_iff hnow'.plain, hnow'.plain.nanos_moved]
      omega
    -- the later start lies between two dates
    have hdate' : (now'.moved (-span.toDifference)).isRepresentable = true := by
      have hfirst := day_le_of_le hforward
      have hlast := day_le_of_le hback
      have hnowDate := hnow'.date
      rw [hstart] at hfirst
      simp only [isRepresentable, Bool.and_eq_true, decide_eq_true_eq] at hdate hnowDate ⊢
      omega
    exact ⟨_, by rw [windowStart?_eq, if_pos hdate'], hforward⟩
  next => cases h

/-- What is past stays past. -/
theorem IsOrdinary.isPast_later {now now' t : Instant} (hnow : now.IsOrdinary)
    (hnow' : now'.IsOrdinary) (hle : now ≤ now') {span : Span} (h : isPast span now t = true) :
    isPast span now' t = true := by
  obtain ⟨start, hstart, hlt⟩ := isPast_iff.mp h
  obtain ⟨start', hstart', hforward⟩ := hnow.windowStart?_later hnow' hle hstart
  exact isPast_iff.mpr ⟨start', hstart', lt_of_lt_of_le hlt hforward⟩

end Instant

end HomeClimate
