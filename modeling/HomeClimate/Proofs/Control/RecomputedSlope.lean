import HomeClimate.Proofs.Control.WindowHistory
import Mathlib.Data.List.DropRight

/-!
# The slope as computed anew

A slope is taken over the samples that its window holds, and those that have left are gone
for good.  Two always stay, and they may leave later.  For all that the slope is the one that
is computed anew from the samples that the window has seen (`slope_recomputed`).

A sample leaves as soon as one that is at least the second after it finds it past, for with the
first after it there are only two.  Those that have not left are `lasting`.  Without leap
seconds they are what the last sample alone would leave (`lasting_of_ordinary`), that is those
that are inside its window but never fewer than the last two (`keepTwo_eq`).  With one there
may be fewer (`slope_short_after_leap_second`).
-/

namespace HomeClimate

variable {ν : Type}

namespace SlidingSlope

/-! ## Two at least -/

/-- The samples from the first that is not past on, but two at least. -/
def keepTwo (past : Instant → Bool) : List (Sample ν) → List (Sample ν)
  | a :: b :: c :: rest =>
    if past a.1 then keepTwo past (b :: c :: rest) else a :: b :: c :: rest
  | samples => samples

/-- The samples that are inside, but never fewer than the last two. -/
def insideOrLastTwo (inside : Instant → Bool) (samples : List (Sample ν)) : List (Sample ν) :=
  if 2 ≤ (samples.filter fun s => inside s.1).length then samples.filter fun s => inside s.1
  else samples.rtake 2

theorem keepTwo_cons (past : Instant → Bool) (a : Sample ν) {rest : List (Sample ν)}
    (h : 2 ≤ rest.length) :
    keepTwo past (a :: rest) = if past a.1 then keepTwo past rest else a :: rest := by
  match rest, h with
  | b :: c :: rest, _ => rfl

theorem keepTwo_of_length_le (past : Instant → Bool) {samples : List (Sample ν)}
    (h : samples.length ≤ 2) : keepTwo past samples = samples := by
  match samples, h with
  | [], _ => rfl
  | [a], _ => rfl
  | [a, b], _ => rfl

theorem expireFrom_eq (start : Instant) (samples : List (Sample ν)) :
    expireFrom start samples = keepTwo (fun t => decide (t < start)) samples := by
  match samples with
  | a :: b :: c :: rest =>
      rw [expireFrom, keepTwo, expireFrom_eq start (b :: c :: rest)]
      simp only [decide_eq_true_eq]
  | [] => rfl
  | [a] => rfl
  | [a, b] => rfl

/-- Where nothing is past all stay. -/
theorem keepTwo_of_none {past : Instant → Bool} {samples : List (Sample ν)}
    (h : ∀ s ∈ samples, past s.1 = false) : keepTwo past samples = samples := by
  match samples with
  | a :: b :: c :: rest => rw [keepTwo, h a List.mem_cons_self, if_neg Bool.false_ne_true]
  | [] => rfl
  | [a] => rfl
  | [a, b] => rfl

theorem insideOrLastTwo_of_length_le (inside : Instant → Bool) {samples : List (Sample ν)}
    (h : samples.length ≤ 2) : insideOrLastTwo inside samples = samples := by
  rw [insideOrLastTwo]
  split
  next hkept => exact List.filter_sublist.eq_of_length_le (Nat.le_trans h hkept)
  next => rw [List.rtake, Nat.sub_eq_zero_of_le h, List.drop_zero]

theorem insideOrLastTwo_of_all {inside : Instant → Bool} {samples : List (Sample ν)}
    (h : ∀ s ∈ samples, inside s.1 = true) (hlength : 2 ≤ samples.length) :
    insideOrLastTwo inside samples = samples := by
  rw [insideOrLastTwo, List.filter_eq_self.mpr h, if_pos hlength]

/-- A sample outside is none of those inside, and with two after it none of the last two. -/
theorem insideOrLastTwo_cons {inside : Instant → Bool} {a : Sample ν} (h : inside a.1 = false)
    {rest : List (Sample ν)} (hlength : 2 ≤ rest.length) :
    insideOrLastTwo inside (a :: rest) = insideOrLastTwo inside rest := by
  have hlast : (a :: rest).rtake 2 = rest.rtake 2 := by
    rw [List.rtake, List.rtake, List.length_cons, Nat.succ_sub hlength, List.drop_succ_cons]
  rw [insideOrLastTwo, insideOrLastTwo, List.filter_cons, h, if_neg Bool.false_ne_true, hlast]

/-- Where what is past comes first, all that is not past stays, and the last two in any case. -/
theorem keepTwo_eq {past : Instant → Bool} {samples : List (Sample ν)}
    (h : samples.Pairwise fun s s' => past s'.1 = true → past s.1 = true) :
    keepTwo past samples = insideOrLastTwo (fun t => !past t) samples := by
  induction samples with
  | nil => rfl
  | cons a rest ih =>
      obtain ⟨hbefore, h⟩ := List.pairwise_cons.mp h
      by_cases hlength : 2 ≤ rest.length
      · rw [keepTwo_cons past a hlength]
        cases hpast : past a.1 with
        | true => rw [if_pos rfl, ih h, insideOrLastTwo_cons (by simp [hpast]) hlength]
        | false =>
            have hinside : ∀ s ∈ a :: rest, (!past s.1) = true := by
              refine List.forall_mem_cons.mpr ⟨by simp [hpast], fun s hs => ?_⟩
              cases hs' : past s.1 with
              | true => exact absurd (hbefore s hs hs') (by simp [hpast])
              | false => rfl
            rw [if_neg Bool.false_ne_true, insideOrLastTwo_of_all hinside]
            exact Nat.le_succ_of_le hlength
      · have hshort : (a :: rest).length ≤ 2 := Nat.not_le.mp hlength
        rw [keepTwo_of_length_le past hshort, insideOrLastTwo_of_length_le _ hshort]

/-! ## The samples that last -/

/-- The samples that are past for none of those that are at least the second after them. -/
def lasting (span : Span) : List (Sample ν) → List (Sample ν)
  | [] => []
  | a :: rest =>
    if rest.tail.any fun s => isPast span s.1 a.1 then lasting span rest
    else a :: lasting span rest

theorem lasting_sublist (span : Span) (samples : List (Sample ν)) :
    (lasting span samples).Sublist samples := by
  induction samples with
  | nil => exact List.Sublist.slnil
  | cons a rest ih =>
      rw [lasting]
      split
      · exact ih.cons a
      · exact ih.cons_cons a

theorem getLast?_lasting (span : Span) (samples : List (Sample ν)) :
    (lasting span samples).getLast? = samples.getLast? := by
  induction samples with
  | nil => rfl
  | cons a rest ih =>
      cases rest with
      | nil => rfl
      | cons b rest =>
          rw [lasting, List.getLast?_cons_cons, ← ih]
          split
          · rfl
          · rw [List.getLast?_cons, ih, List.getLast?_cons]
            rfl

/-- The last two always last. -/
theorem two_le_length_lasting (span : Span) {samples : List (Sample ν)} (h : 2 ≤ samples.length) :
    2 ≤ (lasting span samples).length := by
  match samples, h with
  | [a, b], _ => exact Nat.le_refl 2
  | a :: b :: c :: rest, _ =>
      have hrest : 2 ≤ (lasting span (b :: c :: rest)).length :=
        two_le_length_lasting span (by simp)
      rw [lasting]
      split
      · exact hrest
      · exact Nat.le_succ_of_le hrest

theorem lasting_ne_nil (span : Span) {samples : List (Sample ν)} (h : samples ≠ []) :
    lasting span samples ≠ [] := by
  rw [ne_eq, ← List.getLast?_eq_none_iff, getLast?_lasting, List.getLast?_eq_none_iff]
  exact h

/-- With one more sample those leave that it finds past, from the oldest on and not the last two. -/
theorem lasting_concat (span : Span) {samples : List (Sample ν)} {s : Sample ν}
    (horder : (samples ++ [s]).Pairwise fun a b => a.1 ≤ b.1) :
    lasting span (samples ++ [s]) = keepTwo (isPast span s.1) (lasting span samples ++ [s]) := by
  induction samples with
  | nil => rfl
  | cons a rest ih =>
      obtain ⟨hbefore, horder⟩ := List.pairwise_cons.mp horder
      cases rest with
      | nil => rfl
      | cons b rest =>
          have hlength : 2 ≤ (lasting span (b :: rest) ++ [s]).length := by
            rw [List.length_append]
            exact Nat.succ_le_succ
              (List.length_pos_iff.mpr (lasting_ne_nil span (List.cons_ne_nil b rest)))
          rw [List.cons_append, lasting, lasting, List.cons_append, List.tail_cons, List.tail_cons,
            List.any_append, ← List.cons_append, ih horder]
          cases rest.any fun s' => isPast span s'.1 a.1 with
          | true => rfl
          | false =>
              rw [if_neg Bool.false_ne_true, List.cons_append, keepTwo_cons _ a hlength]
              cases hpast : isPast span s.1 a.1 with
              | true => simp [hpast]
              | false =>
                  have hnone : ∀ s' ∈ lasting span (b :: rest) ++ [s],
                      isPast span s.1 s'.1 = false := by
                    intro s' hs'
                    have hmem := ((lasting_sublist span (b :: rest)).append_right [s]).mem hs'
                    exact not_isPast_after hpast (hbefore s' hmem)
                  rw [keepTwo_of_none hnone]
                  simp [hpast]

/-- What has left already would leave now. -/
theorem keepTwo_keepTwo_concat {past earlier : Instant → Bool}
    (h : ∀ t, earlier t = true → past t = true) (samples : List (Sample ν)) (s : Sample ν) :
    keepTwo past (keepTwo earlier samples ++ [s]) = keepTwo past (samples ++ [s]) := by
  induction samples with
  | nil => rfl
  | cons a rest ih =>
      by_cases hlength : 2 ≤ rest.length
      · have hlength' : 2 ≤ (rest ++ [s]).length := by
          rw [List.length_append]
          exact Nat.le_succ_of_le hlength
        rw [keepTwo_cons earlier a hlength]
        cases hearlier : earlier a.1 with
        | true => rw [if_pos rfl, ih, List.cons_append, keepTwo_cons past a hlength',
            if_pos (h a.1 hearlier)]
        | false => rfl
      · have hshort : (a :: rest).length ≤ 2 := Nat.not_le.mp hlength
        rw [keepTwo_of_length_le earlier hshort]

/-- Without leap seconds those last that the last sample alone would leave. -/
theorem lasting_of_ordinary (span : Span) {samples : List (Sample ν)} {s : Sample ν}
    (horder : (samples ++ [s]).Pairwise fun a b => a.1 ≤ b.1)
    (hplain : ∀ s' ∈ samples ++ [s], s'.1.IsOrdinary) :
    lasting span (samples ++ [s]) = keepTwo (isPast span s.1) (samples ++ [s]) := by
  induction samples using List.reverseRecOn generalizing s with
  | nil => rfl
  | append_singleton samples s' ih =>
      obtain ⟨horder', -, hbefore⟩ := List.pairwise_append.mp horder
      have hle : s'.1 ≤ s.1 := hbefore s' (by simp) s List.mem_cons_self
      have hlater : ∀ t, isPast span s'.1 t = true → isPast span s.1 t = true := fun t =>
        (hplain s' (by simp)).isPast_later (hplain s (by simp)) hle
      rw [lasting_concat span horder, ih horder' fun a ha => hplain a (List.mem_append_left [s] ha),
        keepTwo_keepTwo_concat hlater]

/-! ## What a window comes to -/

variable [Scalar ν]

/-- A window holds some of the samples that it has seen.  Its slope is zero until there are two and
from then on that between the oldest that it holds and the newest. -/
structure IsSlopeOf (w : SlidingSlope ν) (kept seen : List (Sample ν)) : Prop where
  samples : w.samples = kept
  zero : seen.length < 2 → w.slope = 0
  between : 2 ≤ seen.length → ∃ first last, kept.head? = some first ∧ seen.getLast? = some last ∧
    w.slope = (last.2 - first.2) / secondsOf (last.1.since first.1)

theorem slope_of_length_lt {w : SlidingSlope ν} (h : w.samples.length < 2) : w.slope = 0 := by
  rw [slope]
  match w.samples, h with
  | [], _ => rfl
  | [a], _ => rfl

theorem exists_slope_eq {w : SlidingSlope ν} (h : 2 ≤ w.samples.length) :
    ∃ first last, w.samples.head? = some first ∧ w.samples.getLast? = some last ∧
      w.slope = (last.2 - first.2) / secondsOf (last.1.since first.1) := by
  rw [slope]
  match w.samples, h with
  | first :: second :: rest, _ =>
      refine ⟨first, (second :: rest).getLast (by simp), rfl, ?_, rfl⟩
      rw [List.getLast?_cons_cons, List.getLast?_eq_some_getLast (by simp)]

theorem isSlopeOf_lasting {w : SlidingSlope ν} {span : Span} {seen : List (Sample ν)}
    (h : w.samples = lasting span seen) : w.IsSlopeOf (lasting span seen) seen where
  samples := h
  zero := by
    intro hlength
    refine slope_of_length_lt ?_
    rw [h]
    exact Nat.lt_of_le_of_lt (lasting_sublist span seen).length_le hlength
  between := by
    intro hlength
    rw [← getLast?_lasting span, ← h]
    refine exists_slope_eq ?_
    rw [h]
    exact two_le_length_lasting span hlength

/-! ## Runs -/

omit [Scalar ν] in
theorem span_append (w : SlidingSlope ν) (now : Instant) (value : ν) :
    (w.append now value).span = w.span := by
  rw [append]
  split <;> rfl

omit [Scalar ν] in
/-- One more sample comes, and then those leave that it finds past. -/
theorem samples_append (w : SlidingSlope ν) (now : Instant) (value : ν) :
    (w.append now value).samples =
      keepTwo (isPast w.span now) (w.samples ++ [(now, value)]) := by
  rw [append]
  cases hstart : windowStart? now w.span with
  | none =>
      refine (keepTwo_of_none fun s _ => ?_).symm
      rw [isPast, hstart]
  | some start =>
      have hpast : isPast w.span now = fun t => decide (t < start) := by
        funext t
        rw [isPast, hstart]
      rw [hpast]
      exact expireFrom_eq start _

/-- What a call makes of a window. -/
def call (w : SlidingSlope ν) : WindowCall ν → SlidingSlope ν
  | .append now value => w.append now value
  | .reset => w.reset

/-- What some calls make of a window, one after the other. -/
def run (w : SlidingSlope ν) (calls : List (WindowCall ν)) : SlidingSlope ν := calls.foldl call w

omit [Scalar ν] in
theorem run_concat (w : SlidingSlope ν) (calls : List (WindowCall ν)) (c : WindowCall ν) :
    w.run (calls ++ [c]) = (w.run calls).call c := by
  rw [run, List.foldl_append]
  rfl

omit [Scalar ν] in
/-- When samples come in order, a window holds those that last of the ones it has seen. -/
theorem samples_run (span : Span) {calls : List (WindowCall ν)}
    (horder : (WindowCall.samples calls).Pairwise fun s s' => s.1 ≤ s'.1) :
    ((empty span).run calls).span = span ∧
      ((empty span).run calls).samples = lasting span (WindowCall.seen calls) := by
  induction calls using List.reverseRecOn with
  | nil => exact ⟨rfl, rfl⟩
  | append_singleton calls c ih =>
      have hseen := WindowCall.seen_pairwise horder
      rw [WindowCall.samples, filterMap_concat] at horder
      obtain ⟨hspan, hsamples⟩ := ih (List.pairwise_append.mp horder).1
      rw [run_concat]
      rw [WindowCall.seen_concat] at hseen ⊢
      cases c with
      | reset => exact ⟨hspan, rfl⟩
      | append now value =>
          refine ⟨(span_append _ now value).trans hspan, ?_⟩
          rw [call, samples_append, hspan, hsamples]
          exact (lasting_concat span hseen).symm

/-- However samples come in order and are thrown away in between, a window comes to the slope that
is computed anew from those seen since: it holds the samples that are past for none of those that
are at least the second after them.  Without leap seconds these are the ones inside the window of
the last sample, but never fewer than the last two. -/
theorem slope_recomputed (span : Span) {calls : List (WindowCall ν)}
    (horder : (WindowCall.samples calls).Pairwise fun s s' => s.1 ≤ s'.1) :
    ((empty span).run calls).IsSlopeOf (lasting span (WindowCall.seen calls))
        (WindowCall.seen calls) ∧
      ∀ last, (WindowCall.seen calls).getLast? = some last →
        (∀ t ∈ WindowCall.times calls, t.IsOrdinary) →
        ((empty span).run calls).IsSlopeOf
          (insideOrLastTwo (fun t => !isPast span last.1 t) (WindowCall.seen calls))
          (WindowCall.seen calls) := by
  have hslope := isSlopeOf_lasting (samples_run span horder).2
  refine ⟨hslope, fun last hlast hplain => ?_⟩
  have hseen := WindowCall.seen_pairwise horder
  have hpast : (WindowCall.seen calls).Pairwise fun s s' =>
      isPast span last.1 s'.1 = true → isPast span last.1 s.1 = true :=
    hseen.imp fun hle hpast => isPast_of_le hpast hle
  obtain ⟨before, hbefore⟩ := List.getLast?_eq_some_iff.mp hlast
  have hlasting : lasting span (WindowCall.seen calls) =
      keepTwo (isPast span last.1) (WindowCall.seen calls) := by
    have hordinary := List.forall_mem_map.mp hplain
    rw [hbefore] at hseen hordinary ⊢
    exact lasting_of_ordinary span hseen hordinary
  rw [← keepTwo_eq hpast, ← hlasting]
  exact hslope

/-- A window of a second after four samples, the third of which comes in a leap second.  The first
leaves with it, though it would belong into the window of the fourth. -/
theorem slope_short_after_leap_second :
    let last : Sample Rat := (.ofEpoch 60 125000000, 7)
    let calls : List (WindowCall Rat) :=
      [.append (.ofEpoch 59 250000000) 0, .append (.ofEpoch 59 375000000) 4,
       .append (.ofEpoch 59 1500000000) 4, .append last.1 last.2]
    let seen := WindowCall.seen calls
    let w := (empty (.seconds 1)).run calls
    ((WindowCall.samples calls).Pairwise fun s s' => s.1 ≤ s'.1) ∧
      (∀ s ∈ WindowCall.samples calls, s.1.time.isValid = true) ∧
      w.samples = [(.ofEpoch 59 375000000, 4), (.ofEpoch 59 1500000000, 4), last] ∧
      insideOrLastTwo (fun t => !isPast (.seconds 1) last.1 t) seen = seen ∧
      w.slope = 4 ∧ (SlidingSlope.mk (.seconds 1) seen).slope = 8 := by
  intro last calls seen w
  exact ⟨by decide +kernel, by decide +kernel, by decide +kernel, by decide +kernel,
    by decide +kernel, by decide +kernel⟩

/-- Two samples are thrown away, and of the four after them the first leaves a window of two
seconds.  A window of no time holds the last two. -/
theorem slope_recomputed_after_reset :
    let calls : List (WindowCall Rat) :=
      [.append (.ofEpoch 0 0) 5, .append (.ofEpoch 1 0) 5, .reset, .append (.ofEpoch 2 0) 1,
       .append (.ofEpoch 3 0) 2, .append (.ofEpoch 4 0) 3, .append (.ofEpoch 5 0) 7]
    let seen := WindowCall.seen calls
    ((WindowCall.samples calls).Pairwise fun s s' => s.1 ≤ s'.1) ∧
      (∀ t ∈ WindowCall.times calls, t.IsOrdinary) ∧
      ((empty (.seconds 2)).run calls).IsSlopeOf
        (insideOrLastTwo (fun t => !isPast (.seconds 2) (.ofEpoch 5 0) t) seen) seen ∧
      ((empty 0).run calls).IsSlopeOf
        (insideOrLastTwo (fun t => !isPast 0 (.ofEpoch 5 0) t) seen) seen := by
  intro calls seen
  have horder : (WindowCall.samples calls).Pairwise fun s s' => s.1 ≤ s'.1 := by decide +kernel
  have hplain : ∀ t ∈ WindowCall.times calls, t.IsOrdinary := by decide +kernel
  have hlast : seen.getLast? = some (.ofEpoch 5 0, 7) := rfl
  exact ⟨horder, hplain, (slope_recomputed (.seconds 2) horder).2 _ hlast hplain,
    (slope_recomputed 0 horder).2 _ hlast hplain⟩

end SlidingSlope

end HomeClimate
