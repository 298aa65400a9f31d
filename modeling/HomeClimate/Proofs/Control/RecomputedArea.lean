import HomeClimate.Proofs.Control.WindowHistory

/-!
# The area as computed anew

A window takes the areas that leave off its sum and never looks back at the samples that
it has seen.  It comes to what is computed anew from all of them (`area_recomputed`): the
trapezes between neighbours of which both are inside, where sums are exact.

A sample is inside if it is past in no window that has ended since, and these ends are the
times of the samples.  Without leap seconds this is a matter of the last one alone
(`isWithinAll_of_ordinary`), for the start of a window does not go back.  With one it may
(`area_short_after_leap_second`).
-/

namespace HomeClimate

variable {ν : Type}

/-! ## Inside -/

/-- Whether a time is past in none of the windows that end at some times. -/
def isWithinAll (span : Span) (ends : List Instant) (t : Instant) : Bool :=
  ends.all fun now => !isPast span now t

/-- For the last of some times they are all within. -/
theorem isWithinAll_of_last {span : Span} {ends : List Instant} {now : Instant}
    (hvalid : ∀ t ∈ ends, t.time.isValid = true) (hlast : ∀ t ∈ ends, t ≤ now) :
    isWithinAll span ends now = true := by
  refine List.all_eq_true.mpr fun t ht => ?_
  rw [not_isPast_of_le span (hvalid t ht) (hlast t ht)]
  rfl

/-- Of windows that end in no leap second the last one says it all. -/
theorem isWithinAll_of_ordinary (span : Span) {ends : List Instant} {now : Instant}
    (hnow : now ∈ ends) (hlast : ∀ t ∈ ends, t ≤ now) (hplain : ∀ t ∈ ends, t.IsOrdinary)
    (t : Instant) : isWithinAll span ends t = !isPast span now t := by
  cases hpast : isPast span now t with
  | true => exact List.all_eq_false.mpr ⟨now, hnow, by simp [hpast]⟩
  | false =>
      refine List.all_eq_true.mpr fun earlier hearlier => ?_
      cases hpast' : isPast span earlier t with
      | false => rfl
      | true =>
          have hstays := (hplain earlier hearlier).isPast_later (hplain now hnow)
            (hlast earlier hearlier) hpast'
          rw [hpast] at hstays
          cases hstays

/-- Of times in order those that are past come first. -/
theorem dropWhile_isPast (span : Span) (now : Instant) {times : List Instant}
    (horder : times.Pairwise (· < ·)) :
    times.dropWhile (isPast span now) = times.filter fun t => !isPast span now t := by
  induction times with
  | nil => rfl
  | cons t times ih =>
      obtain ⟨hbefore, horder⟩ := List.pairwise_cons.mp horder
      rw [List.dropWhile_cons, List.filter_cons]
      cases hpast : isPast span now t with
      | true => exact ih horder
      | false =>
          have hstay : ∀ t' ∈ times, (!isPast span now t') = true := by
            intro t' ht'
            rw [not_isPast_after hpast (Instant.le_of_lt (hbefore t' ht'))]
            rfl
          rw [List.filter_eq_self.mpr hstay]
          rfl

/-- With one more window those leave that are past in it, and its own end is within. -/
theorem filter_isWithinAll_concat (span : Span) {times : List Instant} {now : Instant}
    (horder : (times ++ [now]).Pairwise (· < ·))
    (hvalid : ∀ t ∈ times ++ [now], t.time.isValid = true) :
    (times ++ [now]).filter (isWithinAll span (times ++ [now])) =
      (times.filter (isWithinAll span times)).dropWhile (isPast span now) ++ [now] := by
  obtain ⟨htimes, -, hbefore⟩ := List.pairwise_append.mp horder
  have hlast : ∀ t ∈ times ++ [now], t ≤ now := by
    intro t ht
    rcases List.mem_append.mp ht with ht | ht
    · exact Instant.le_of_lt (hbefore t ht now List.mem_cons_self)
    · rw [List.mem_singleton.mp ht]
      exact Instant.le_refl now
  have hsplit : isWithinAll span (times ++ [now]) =
      fun t => !isPast span now t && isWithinAll span times t := by
    funext t
    simp [isWithinAll, Bool.and_comm]
  rw [dropWhile_isPast span now (htimes.filter _), List.filter_filter, ← hsplit, List.filter_append]
  congr 1
  rw [List.filter_cons, isWithinAll_of_last hvalid hlast]
  rfl

namespace SlidingIntegral

variable [Scalar ν]

/-! ## The area between neighbours -/

/-- Neighbours among samples. -/
def neighbours (samples : List (Sample ν)) : List (Sample ν × Sample ν) :=
  samples.zip samples.tail

/-- The area between neighbours among samples of which both are inside. -/
def areaWithin (inside : Instant → Bool) (samples : List (Sample ν)) : ν :=
  Scalar.sum (((neighbours samples).filter fun p => inside p.1.1 && inside p.2.1).map
    fun p => trapeze p.1 p.2)

omit [Scalar ν] in
theorem mem_of_mem_neighbours {samples : List (Sample ν)} {p : Sample ν × Sample ν}
    (h : p ∈ neighbours samples) : p.1 ∈ samples ∧ p.2 ∈ samples := by
  obtain ⟨hleft, hright⟩ := List.of_mem_zip (a := p.1) (b := p.2) h
  exact ⟨hleft, List.mem_of_mem_tail hright⟩

omit [Scalar ν] in
/-- Of samples of which the first are outside and the others inside, the neighbours inside are those
among the others. -/
theorem filter_neighbours_append {inside : Instant → Bool} {before kept : List (Sample ν)}
    (hbefore : ∀ s ∈ before, inside s.1 = false) (hkept : ∀ s ∈ kept, inside s.1 = true) :
    ((neighbours (before ++ kept)).filter fun p => inside p.1.1 && inside p.2.1) =
      neighbours kept := by
  induction before with
  | nil =>
      refine List.filter_eq_self.mpr fun p hp => ?_
      obtain ⟨hleft, hright⟩ := mem_of_mem_neighbours hp
      rw [hkept p.1 hleft, hkept p.2 hright]
      rfl
  | cons a before ih =>
      obtain ⟨ha, hbefore⟩ := List.forall_mem_cons.mp hbefore
      rw [← ih hbefore, List.cons_append]
      cases before ++ kept with
      | nil => rfl
      | cons b rest =>
          have hcons : neighbours (a :: b :: rest) = (a, b) :: neighbours (b :: rest) := rfl
          rw [hcons, List.filter_cons, ha]
          rfl

theorem trapezesFrom_areas (a : Sample ν) (rest : List (Sample ν)) :
    (trapezesFrom a rest).map Prod.snd =
      (neighbours (a :: rest)).map fun p => trapeze p.1 p.2 := by
  induction rest generalizing a with
  | nil => rfl
  | cons b rest ih =>
      rw [trapezesFrom, List.map_cons, ih]
      rfl

theorem total_trapezes [ExactSum ν] (samples : List (Sample ν)) :
    total (trapezes samples) =
      Scalar.sum ((neighbours samples).map fun p => trapeze p.1 p.2) := by
  cases samples with
  | nil => rfl
  | cons a rest =>
      rw [← trapezesFrom_areas]
      show ((trapezesFrom a rest).map Prod.snd).foldl (· + ·) (0 + 0) = _
      rw [ExactSum.zero_add_zero]
      rfl

/-! ## What a window comes to -/

/-- A window holds the trapezes of the samples that are inside, and their sum is the area as it is
computed anew. -/
structure IsAreaWithin (w : SlidingIntegral ν) (inside : Instant → Bool)
    (samples : List (Sample ν)) : Prop where
  areas : w.areas = trapezes (samples.filter fun s => inside s.1)
  sum : ∀ [ExactSum ν], w.sum = areaWithin inside samples

/-- It is a matter of the samples' times which of them are inside. -/
theorem IsAreaWithin.congr {w : SlidingIntegral ν} {inside inside' : Instant → Bool}
    {samples : List (Sample ν)} (h : w.IsAreaWithin inside samples)
    (hsame : ∀ s ∈ samples, inside s.1 = inside' s.1) : w.IsAreaWithin inside' samples where
  areas := by rw [h.areas, List.filter_congr hsame]
  sum := by
    intro _
    have hpairs : ∀ p ∈ neighbours samples,
        (inside p.1.1 && inside p.2.1) = (inside' p.1.1 && inside' p.2.1) := by
      intro p hp
      obtain ⟨hleft, hright⟩ := mem_of_mem_neighbours hp
      rw [hsame p.1 hleft, hsame p.2 hright]
    rw [h.sum, areaWithin, areaWithin, List.filter_congr hpairs]

/-- The times of a window say which samples it keeps. -/
theorem IsWindowOf.isAreaWithin {w : SlidingIntegral ν} {samples : List (Sample ν)}
    (h : w.IsWindowOf samples) {inside : Instant → Bool}
    (htimes : w.times = (samples.map Prod.fst).filter inside) : w.IsAreaWithin inside samples := by
  obtain ⟨kept, ⟨before, rfl⟩, -, hareas⟩ := h.areas
  rw [times, hareas, times_trapezes, List.map_append, List.filter_append] at htimes
  have hkept : ∀ s ∈ kept, inside s.1 = true := by
    intro s hs
    have hmem := List.mem_map_of_mem (f := Prod.fst) hs
    rw [htimes, ← List.filter_append] at hmem
    exact (List.mem_filter.mp hmem).2
  have hsame : (kept.map Prod.fst).filter inside = kept.map Prod.fst :=
    List.filter_eq_self.mpr (List.forall_mem_map.mpr hkept)
  rw [hsame, List.self_eq_append_left] at htimes
  have hbefore : ∀ s ∈ before, inside s.1 = false := by
    intro s hs
    exact Bool.eq_false_iff.mpr
      (List.filter_eq_nil_iff.mp htimes s.1 (List.mem_map_of_mem (f := Prod.fst) hs))
  constructor
  case areas =>
    have hnone : (before.filter fun s => inside s.1) = [] :=
      List.filter_eq_nil_iff.mpr fun s hs => Bool.eq_false_iff.mp (hbefore s hs)
    rw [hareas, List.filter_append, hnone, List.filter_eq_self.mpr hkept, List.nil_append]
  case sum =>
    intro _
    rw [h.sum, hareas, total_trapezes, areaWithin, filter_neighbours_append hbefore hkept]

/-! ## Runs -/

/-- What a call makes of a window. -/
def call (w : SlidingIntegral ν) : WindowCall ν → Except (Fault ν) (SlidingIntegral ν)
  | .append now value => w.append now value
  | .reset => .ok w.reset

/-- What some calls make of a window, one after the other. -/
def run (w : SlidingIntegral ν) (calls : List (WindowCall ν)) :
    Except (Fault ν) (SlidingIntegral ν) :=
  calls.foldlM call w

theorem run_concat {w w' : SlidingIntegral ν} {calls : List (WindowCall ν)}
    (h : w.run calls = .ok w') (c : WindowCall ν) : w.run (calls ++ [c]) = w'.call c := by
  rw [run, List.foldlM_append]
  refine Outcome.bind_of_eq_ok h ?_
  rw [List.foldlM_cons]
  exact bind_pure _

/-- Samples that come in order are never refused, and of those that a window has seen it keeps the
ones within all windows since. -/
theorem exists_run (span : Span) {calls : List (WindowCall ν)}
    (horder : (WindowCall.samples calls).Pairwise fun s s' => s.1 < s'.1)
    (hvalid : ∀ s ∈ WindowCall.samples calls, s.1.time.isValid = true) :
    ∃ w, (empty span).run calls = .ok w ∧ w.span = span ∧ w.IsWindowOf (WindowCall.seen calls) ∧
      w.times = (WindowCall.times calls).filter (isWithinAll span (WindowCall.times calls)) := by
  induction calls using List.reverseRecOn with
  | nil => exact ⟨empty span, rfl, rfl, isWindowOf_empty span, rfl⟩
  | append_singleton calls c ih =>
      have hseen := WindowCall.seen_pairwise horder
      have htimesOrder := WindowCall.times_pairwise horder
      have htimesValid : ∀ t ∈ WindowCall.times (calls ++ [c]), t.time.isValid = true :=
        WindowCall.forall_times hvalid
      rw [WindowCall.samples, filterMap_concat] at horder hvalid
      obtain ⟨w, hrun, hspan, hwindow, htimes⟩ := ih (List.pairwise_append.mp horder).1
        fun s hs => hvalid s (List.mem_append_left _ hs)
      rw [run_concat hrun]
      cases c with
      | reset =>
          rw [WindowCall.times, WindowCall.seen_concat]
          exact ⟨w.reset, rfl, hspan, isWindowOf_empty _, rfl⟩
      | append now value =>
          rw [WindowCall.seen_concat] at hseen ⊢
          rw [WindowCall.times_append] at htimesOrder htimesValid ⊢
          have hafter : now.IsAfter (w.last.map Prod.fst) := by
            intro t ht
            obtain ⟨s, hs, rfl⟩ := Option.map_eq_some_iff.mp ht
            rw [hwindow.last] at hs
            exact (List.pairwise_append.mp hseen).2.2 s (List.mem_of_getLast? hs) _
              List.mem_cons_self
          obtain ⟨w', happend, -⟩ := append_of_after hafter value
          obtain ⟨hwindow', htimes'⟩ := hwindow.append (htimesValid now (by simp)) happend
          refine ⟨w', happend, (span_append happend).trans hspan, hwindow', ?_⟩
          rw [htimes', htimes, hspan]
          exact (filter_isWithinAll_concat span htimesOrder htimesValid).symm

/-- However samples come in order and are thrown away in between, a window comes to what is computed
anew from those seen since: it is made of the samples that are past for none of them.  Without leap
seconds the last sample alone says which these are, and none has left if the window of that sample
starts before the first date. -/
theorem area_recomputed (span : Span) {calls : List (WindowCall ν)}
    (horder : (WindowCall.samples calls).Pairwise fun s s' => s.1 < s'.1)
    (hvalid : ∀ s ∈ WindowCall.samples calls, s.1.time.isValid = true) :
    ∃ w, (empty span).run calls = .ok w ∧
      w.IsAreaWithin (isWithinAll span (WindowCall.times calls)) (WindowCall.seen calls) ∧
      ∀ last, (WindowCall.seen calls).getLast? = some last →
        (∀ t ∈ WindowCall.times calls, t.IsOrdinary) →
        w.IsAreaWithin (fun t => !isPast span last.1 t) (WindowCall.seen calls) ∧
          (windowStart? last.1 span = none → w.areas = trapezes (WindowCall.seen calls)) := by
  obtain ⟨w, hrun, -, hwindow, htimes⟩ := exists_run span horder hvalid
  have hwithin := hwindow.isAreaWithin htimes
  refine ⟨w, hrun, hwithin, fun last hlast hplain => ?_⟩
  have hinside := isWithinAll_of_ordinary span (WindowCall.last_mem_times hlast)
    (WindowCall.le_last horder hlast) hplain
  have hlastOnly : w.IsAreaWithin (fun t => !isPast span last.1 t) (WindowCall.seen calls) :=
    hwithin.congr fun s _ => hinside s.1
  refine ⟨hlastOnly, fun hstart => ?_⟩
  have hall : ∀ s ∈ WindowCall.seen calls, (!isPast span last.1 s.1) = true := by
    intro s _
    rw [isPast, hstart]
    rfl
  rw [hlastOnly.areas, List.filter_eq_self.mpr hall]

/-- A window of a second after three samples, the second of which comes in a leap second.  The first
leaves with it, though it would belong into the window of the third. -/
theorem area_short_after_leap_second :
    let last : Instant := .ofEpoch 60 125000000
    let calls : List (WindowCall Rat) :=
      [.append (.ofEpoch 59 250000000) 1, .append (.ofEpoch 59 1500000000) 1, .append last 1]
    ((WindowCall.samples calls).Pairwise fun s s' => s.1 < s'.1) ∧
      (∀ s ∈ WindowCall.samples calls, s.1.time.isValid = true) ∧
      ∃ w, (empty (.seconds 1)).run calls = .ok w ∧
        w.times = [.ofEpoch 59 1500000000, last] ∧
        (WindowCall.times calls).filter (fun t => !isPast (.seconds 1) last t) =
          [.ofEpoch 59 250000000, .ofEpoch 59 1500000000, last] ∧
        w.sum = 5 / 8 ∧
        areaWithin (fun t => !isPast (.seconds 1) last t) (WindowCall.seen calls) = 15 / 8 := by
  intro last calls
  have hruns : Outcome.holds ((empty (.seconds 1)).run calls) (fun w =>
      decide (w.times = [.ofEpoch 59 1500000000, last] ∧ w.sum = 5 / 8)) = true := by
    decide +kernel
  obtain ⟨w, hrun, htest⟩ := Outcome.exists_of_holds hruns
  obtain ⟨htimes, hsum⟩ := of_decide_eq_true htest
  exact ⟨by decide +kernel, by decide +kernel, w, hrun, htimes, by decide +kernel, hsum,
    by decide +kernel⟩

/-- Two samples are thrown away, and of the four after them the first leaves a window of two
seconds. -/
theorem area_recomputed_after_reset :
    let calls : List (WindowCall Rat) :=
      [.append (.ofEpoch 0 0) 5, .append (.ofEpoch 1 0) 5, .reset, .append (.ofEpoch 2 0) 1,
       .append (.ofEpoch 3 0) 2, .append (.ofEpoch 4 0) 3, .append (.ofEpoch 5 0) 4]
    let inside := fun t => !isPast (.seconds 2) (.ofEpoch 5 0) t
    ((WindowCall.samples calls).Pairwise fun s s' => s.1 < s'.1) ∧
      (∀ s ∈ WindowCall.samples calls, s.1.time.isValid = true) ∧
      (∀ t ∈ WindowCall.times calls, t.IsOrdinary) ∧
      ∃ w, (empty (.seconds 2)).run calls = .ok w ∧
        w.IsAreaWithin inside (WindowCall.seen calls) ∧
        areaWithin inside (WindowCall.seen calls) = 6 := by
  intro calls inside
  have horder : (WindowCall.samples calls).Pairwise fun s s' => s.1 < s'.1 := by decide +kernel
  have hvalid : ∀ s ∈ WindowCall.samples calls, s.1.time.isValid = true := by decide +kernel
  have hplain : ∀ t ∈ WindowCall.times calls, t.IsOrdinary := by decide +kernel
  obtain ⟨w, hrun, -, hlast⟩ := area_recomputed (.seconds 2) horder hvalid
  exact ⟨horder, hvalid, hplain, w, hrun, (hlast (.ofEpoch 5 0, 4) rfl hplain).1, by decide +kernel⟩

end SlidingIntegral

end HomeClimate
