import HomeClimate.Proofs.Control.TimeOrder
import Mathlib.Data.List.Induction
import Mathlib.Data.Rat.Lemmas

/-!
# The area under a window

A window of samples is made by appending them one after the other, and all that it holds
is made of some of the last ones, those that it *keeps* (`IsWindowOf`).

* The areas are the trapezes between neighbours among the samples that it keeps.  The first
  of them has none, for its trapeze began outside.
* The sum is that of the areas.  This takes a sum from which a part can be taken off again
  (`ExactSum`), as exact numbers have it and doubles do not: a window takes the areas that
  leave off the sum, it does not sum up anew.

A sample is never before the start of a window that ends with it.  So when a sample is
appended some of the oldest leave and this one enters, and it is the only one
(`IsWindowOf.append`).
-/

namespace HomeClimate

variable {ν : Type} [Scalar ν]

/-- A sum from which a part can be taken off again. -/
class ExactSum (ν : Type) [Scalar ν] : Prop where
  zero_add_zero : (0 : ν) + 0 = 0
  add_right_comm (a b c : ν) : a + b + c = a + c + b
  add_sub_cancel_right (a b : ν) : a + b - b = a

instance : ExactSum Rat where
  zero_add_zero := add_zero 0
  add_right_comm := add_right_comm
  add_sub_cancel_right := add_sub_cancel_right

/-- Whether a time is before the start of a window that ends now. -/
def isPast (span : Span) (now t : Instant) : Bool :=
  match windowStart? now span with
  | some start => decide (t < start)
  | none => false

/-- No window is over before it begins. -/
theorem not_isPast_self (span : Span) {now : Instant} (h : now.time.isValid = true) :
    isPast span now now = false := by
  rw [isPast]
  cases hstart : windowStart? now span with
  | none => rfl
  | some start =>
      have hle : start ≤ now := Instant.sub?_le h span.toDifference_nonneg hstart
      exact decide_eq_false (Instant.not_lt.mpr hle)

/-! ## Sums -/

theorem foldl_add_right [ExactSum ν] (xs : List ν) (a b : ν) :
    xs.foldl (· + ·) (a + b) = xs.foldl (· + ·) a + b := by
  induction xs generalizing a with
  | nil => rfl
  | cons x xs ih =>
      rw [List.foldl_cons, List.foldl_cons, ExactSum.add_right_comm, ih]

namespace SlidingIntegral

/-! ## Trapezes -/

/-- The area between two samples. -/
def trapeze (a b : Sample ν) : ν := (b.2 + a.2) / Scalar.two * secondsOf (b.1.since a.1)

/-- The times of samples, each with the area between the sample before it and itself. -/
def trapezesFrom : Sample ν → List (Sample ν) → List (Sample ν)
  | _, [] => []
  | a, b :: rest => (b.1, trapeze a b) :: trapezesFrom b rest

/-- The times of samples and their areas, where the first has none. -/
def trapezes : List (Sample ν) → List (Sample ν)
  | [] => []
  | a :: rest => (a.1, 0) :: trapezesFrom a rest

theorem trapezesFrom_concat (a b : Sample ν) (rest : List (Sample ν)) :
    trapezesFrom a (rest ++ [b]) =
      trapezesFrom a rest ++ [(b.1, trapeze ((a :: rest).getLast (by simp)) b)] := by
  induction rest generalizing a with
  | nil => rfl
  | cons c rest ih =>
      rw [List.cons_append, trapezesFrom, trapezesFrom, ih, List.cons_append]
      rfl

/-- A sample after the last one has the area between the two. -/
theorem trapezes_concat {samples : List (Sample ν)} {a : Sample ν}
    (h : samples.getLast? = some a) (b : Sample ν) :
    trapezes (samples ++ [b]) = trapezes samples ++ [(b.1, trapeze a b)] := by
  cases samples with
  | nil => cases h
  | cons first rest =>
      have hlast : (first :: rest).getLast (by simp) = a := by
        rw [List.getLast?_eq_some_getLast (by simp)] at h
        exact Option.some.inj h
      rw [List.cons_append, trapezes, trapezesFrom_concat, hlast]
      rfl

theorem times_trapezesFrom (a : Sample ν) (rest : List (Sample ν)) :
    (trapezesFrom a rest).map Prod.fst = rest.map Prod.fst := by
  induction rest generalizing a with
  | nil => rfl
  | cons b rest ih => rw [trapezesFrom, List.map_cons, List.map_cons, ih]

theorem times_trapezes (samples : List (Sample ν)) :
    (trapezes samples).map Prod.fst = samples.map Prod.fst := by
  cases samples with
  | nil => rfl
  | cons a rest => rw [trapezes, List.map_cons, List.map_cons, times_trapezesFrom]

/-! ## What leaves -/

/-- The first sample that stays gives up its area. -/
theorem expireFrom_trapezes (start : Instant) (sum : ν) (a : Sample ν) (rest : List (Sample ν)) :
    (expireFrom start sum (a.1, 0) (trapezesFrom a rest)).2 =
      trapezes ((a :: rest).dropWhile fun s => decide (s.1 < start)) := by
  induction rest generalizing a sum with
  | nil =>
      rw [trapezesFrom, expireFrom, List.dropWhile_cons]
      by_cases hpast : a.1 < start
      · rw [if_pos hpast, if_pos (decide_eq_true hpast)]
        rfl
      · rw [if_neg hpast, if_neg (by simpa using hpast)]
        rfl
  | cons b rest ih =>
      rw [trapezesFrom, expireFrom, List.dropWhile_cons]
      by_cases hpast : a.1 < start
      · rw [if_pos hpast, if_pos (decide_eq_true hpast)]
        exact ih _ b
      · rw [if_neg hpast, if_neg (by simpa using hpast)]
        rfl

/-- The sum of the areas of a window. -/
def total (areas : List (Sample ν)) : ν := Scalar.sum (areas.map Prod.snd)

theorem total_expireFrom [ExactSum ν] (start : Instant) (t : Instant) (rest : List (Sample ν)) :
    let kept := expireFrom start (total ((t, 0) :: rest)) (t, 0) rest
    kept.1 = total kept.2 := by
  induction rest generalizing t with
  | nil =>
      dsimp only
      rw [expireFrom]
      split
      · exact ExactSum.zero_add_zero
      · rfl
  | cons next rest ih =>
      have hless : total ((t, 0) :: next :: rest) - next.2 = total ((next.1, 0) :: rest) := by
        show (rest.map Prod.snd).foldl (· + ·) (0 + 0 + next.2) - next.2 =
          (rest.map Prod.snd).foldl (· + ·) (0 + 0)
        rw [foldl_add_right, ExactSum.add_sub_cancel_right]
      dsimp only
      rw [expireFrom]
      split
      · rw [hless]
        exact ih next.1
      · rfl

/-- Of a window that holds trapezes it holds those of the samples that are not past, and where sums
are exact it still has their sum. -/
theorem expire_trapezes {w : SlidingIntegral ν} {samples : List (Sample ν)}
    (h : w.areas = trapezes samples) (now : Instant) :
    (w.expire now).areas = trapezes (samples.dropWhile fun s => isPast w.span now s.1) ∧
      ∀ [ExactSum ν], w.sum = total w.areas → (w.expire now).sum = total (w.expire now).areas := by
  cases hstart : windowStart? now w.span with
  | none =>
      have hsame : w.expire now = w := by rw [expire, hstart]
      have hall : samples.dropWhile (fun s => isPast w.span now s.1) = samples := by
        cases samples <;> simp [isPast, hstart]
      rw [hall, hsame]
      exact ⟨h, fun hsum => hsum⟩
  | some start =>
      cases samples with
      | nil =>
          have hsame : w.expire now = w := by
            rw [expire, hstart, h]
            rfl
          rw [hsame]
          exact ⟨h, fun hsum => hsum⟩
      | cons a rest =>
          have hareas : w.areas = (a.1, 0) :: trapezesFrom a rest := h
          have hpast : (fun s : Sample ν => isPast w.span now s.1) =
              fun s => decide (s.1 < start) := by
            funext s
            rw [isPast, hstart]
          rw [hpast, ← expireFrom_trapezes start w.sum, expire, hstart, hareas]
          refine ⟨rfl, ?_⟩
          intro _ hsum
          rw [hsum]
          exact total_expireFrom start a.1 (trapezesFrom a rest)

/-! ## What a window is made of -/

/-- The times of the samples in the window, the oldest first. -/
def times (w : SlidingIntegral ν) : List Instant := w.areas.map Prod.fst

/-- A window after some samples, each later than the one before. -/
def appendAll (w : SlidingIntegral ν) (samples : List (Sample ν)) :
    Except (Fault ν) (SlidingIntegral ν) :=
  samples.foldlM (fun w s => w.append s.1 s.2) w

/-- A window is what becomes of an empty one when some samples are appended, and it holds the
trapezes of those that it keeps and, where sums are exact, their sum. -/
structure IsWindowOf (w : SlidingIntegral ν) (samples : List (Sample ν)) : Prop where
  appended : (empty w.span).appendAll samples = .ok w
  last : w.last = samples.getLast?
  areas : ∃ kept, kept <:+ samples ∧ kept.getLast? = samples.getLast? ∧ w.areas = trapezes kept
  sum : ∀ [ExactSum ν], w.sum = total w.areas

theorem isWindowOf_empty (span : Span) : (empty span : SlidingIntegral ν).IsWindowOf [] where
  appended := rfl
  last := rfl
  areas := ⟨[], List.suffix_refl [], rfl, rfl⟩
  sum := rfl

/-- What a window is after one more sample. -/
theorem append_eq {w w' : SlidingIntegral ν} {now : Instant} {value : ν}
    (h : w.append now value = .ok w') :
    ∃ area, w.areaTo now value = .ok area ∧
      w' = expire { w with
        areas := w.areas ++ [(now, area)]
        last := some (now, value)
        sum := w.sum + area } now := by
  obtain ⟨area, harea, heq⟩ := Outcome.of_map_eq_ok h
  exact ⟨area, harea, heq.symm⟩

theorem span_expire (w : SlidingIntegral ν) (now : Instant) : (w.expire now).span = w.span := by
  unfold expire
  split <;> rfl

theorem span_append {w w' : SlidingIntegral ν} {now : Instant} {value : ν}
    (h : w.append now value = .ok w') : w'.span = w.span := by
  obtain ⟨area, -, rfl⟩ := append_eq h
  exact span_expire _ now

theorem last_append {w w' : SlidingIntegral ν} {now : Instant} {value : ν}
    (h : w.append now value = .ok w') : w'.last = some (now, value) := by
  obtain ⟨area, -, rfl⟩ := append_eq h
  exact expire_last _ now

/-- The area of a sample that is appended is the trapeze between the last one that the window keeps
and itself. -/
theorem IsWindowOf.trapezes_append {w : SlidingIntegral ν} {samples kept : List (Sample ν)}
    (h : w.IsWindowOf samples) (hlast : kept.getLast? = samples.getLast?) {now : Instant}
    {value area : ν} (harea : w.areaTo now value = .ok area) :
    trapezes (kept ++ [(now, value)]) = trapezes kept ++ [(now, area)] := by
  rw [areaTo, h.last] at harea
  cases hs : samples.getLast? with
  | none =>
      rw [hs] at harea hlast
      cases harea
      rw [List.getLast?_eq_none_iff.mp hlast]
      rfl
  | some a =>
      rw [hs] at harea hlast
      rw [trapezes_concat hlast]
      dsimp only at harea
      split at harea
      · cases harea
        rfl
      · cases harea

/-- What becomes of a window when a sample is appended: it is the window of one sample more, of its
samples those that are past leave, and this one enters. -/
theorem IsWindowOf.append {w w' : SlidingIntegral ν} {samples : List (Sample ν)}
    (h : w.IsWindowOf samples) {now : Instant} (hvalid : now.time.isValid = true) {value : ν}
    (happend : w.append now value = .ok w') :
    w'.IsWindowOf (samples ++ [(now, value)]) ∧
      w'.times = w.times.dropWhile (isPast w.span now) ++ [now] := by
  obtain ⟨kept, hsuffix, hlast, hareas⟩ := h.areas
  obtain ⟨area, harea, heq⟩ := append_eq happend
  have hpushed : w.areas ++ [(now, area)] = trapezes (kept ++ [(now, value)]) := by
    rw [h.trapezes_append hlast harea, hareas]
  have hstays : (kept ++ [(now, value)]).dropWhile (fun s => isPast w.span now s.1) =
      kept.dropWhile (fun s => isPast w.span now s.1) ++ [(now, value)] := by
    rw [List.dropWhile_append]
    split
    next hnone => simp [List.isEmpty_iff.mp hnone, not_isPast_self w.span hvalid]
    next => rfl
  obtain ⟨hkept, hsum⟩ := expire_trapezes (w := { w with
    areas := w.areas ++ [(now, area)], last := some (now, value), sum := w.sum + area }) hpushed now
  rw [← heq, hstays] at hkept
  rw [← heq] at hsum
  refine ⟨?_, ?_⟩
  · constructor
    case appended =>
      rw [span_append happend, appendAll, List.foldlM_append]
      refine Outcome.bind_of_eq_ok h.appended ?_
      rw [List.foldlM_cons, happend]
      rfl
    case last =>
      rw [last_append happend, List.getLast?_append]
      rfl
    case areas =>
      refine ⟨_, ?_, ?_, hkept⟩
      · obtain ⟨before, hbefore⟩ := (List.dropWhile_suffix _).trans hsuffix
        exact ⟨before, by rw [← List.append_assoc, hbefore]⟩
      · simp
    case sum =>
      intro _
      refine hsum ?_
      show w.sum + area = total (w.areas ++ [(now, area)])
      rw [h.sum, total, total, Scalar.sum, Scalar.sum, List.map_append, List.foldl_append]
      rfl
  · rw [times, times, hkept, times_trapezes, List.map_append, hareas, times_trapezes,
      List.dropWhile_map]
    rfl

end SlidingIntegral

end HomeClimate
