import HomeClimate.Filter.RateLimiter
import Mathlib.Data.List.Chain

/-!
# What a rate limiter passes on

A rate limiter compares a signal with the last one that it passed on and not with the
last one that came.  So a signal that it drops says the same as what was passed on
last, however many were dropped in between, and what was passed on is never out of
date (`KeepsUp.current`).  Of two signals in a row that it passes on, the second says
something else or comes late enough (`KeepsUp.spaced`).  Nothing is asked of the
times, which may go back, nor of what "the same" means.
-/

namespace HomeClimate.RateLimiter

variable {α : Type}

/-- A filter either drops a signal that repeats the last one passed on and comes too soon, or it
passes it on and remembers it. -/
theorem process_cases (r : RateLimiter α) (signal : Signal α) :
    (∃ last, r.last = some last ∧ r.same last signal = true ∧
        r.process signal = (r, none)) ∨
      ((∀ last, r.last = some last → r.same last signal = true →
          r.interval ≤ signal.time.spanSince last.time) ∧
        r.process signal = ({ r with last := some signal }, some signal)) := by
  rw [process]
  cases hdrops : r.drops signal with
  | true =>
      rw [if_pos rfl]
      rw [drops] at hdrops
      cases hlast : r.last with
      | none =>
          rw [hlast] at hdrops
          cases hdrops
      | some last =>
          rw [hlast] at hdrops
          exact .inl ⟨last, rfl, (Bool.and_eq_true_iff.mp hdrops).2, rfl⟩
  | false =>
      rw [if_neg Bool.false_ne_true]
      refine .inr ⟨fun last hlast hsame => ?_, rfl⟩
      rw [drops, hlast] at hdrops
      dsimp only at hdrops
      rw [hsame, Bool.and_true, decide_eq_false_iff_not] at hdrops
      exact Nat.le_of_not_lt hdrops

@[simp] theorem interval_process (r : RateLimiter α) (signal : Signal α) :
    (r.process signal).1.interval = r.interval := by
  rw [process]
  split <;> rfl

@[simp] theorem same_process (r : RateLimiter α) (signal : Signal α) :
    (r.process signal).1.same = r.same := by
  rw [process]
  split <;> rfl

/-- What is so of the signals that came to a filter and of those that it passed on. -/
structure KeepsUp (came passed : List (Signal α)) (r : RateLimiter α) : Prop where
  /-- The filter remembers the last signal that it passed on. -/
  last : r.last = passed.getLast?
  /-- That one says the same as the last that came. -/
  current : ∀ signal, came.getLast? = some signal →
    ∃ last, r.last = some last ∧ (last = signal ∨ r.same last signal = true)
  /-- A repetition was passed on only after the interval. -/
  spaced : passed.IsChain fun a b => r.same a b = true → r.interval ≤ b.time.spanSince a.time

theorem keepsUp_create (interval : Span) (same : Signal α → Signal α → Bool) :
    (create interval same).KeepsUp [] [] :=
  ⟨rfl, nofun, .nil⟩

theorem KeepsUp.process {came passed : List (Signal α)} {r : RateLimiter α}
    (h : r.KeepsUp came passed) (signal : Signal α) :
    (r.process signal).1.KeepsUp (came ++ [signal])
      (passed ++ (r.process signal).2.toList) := by
  rcases r.process_cases signal with ⟨last, hlast, hsame, heq⟩ | ⟨hlate, heq⟩
  · rw [heq, Option.toList_none, List.append_nil]
    refine ⟨h.last, fun s hs => ?_, h.spaced⟩
    rw [List.getLast?_concat] at hs
    cases hs
    exact ⟨last, hlast, .inr hsame⟩
  · rw [heq, Option.toList_some]
    refine ⟨List.getLast?_concat.symm, fun s hs => ?_, ?_⟩
    · rw [List.getLast?_concat] at hs
      cases hs
      exact ⟨signal, rfl, .inl rfl⟩
    · rw [List.isChain_append]
      refine ⟨h.spaced, .singleton _, fun before hbefore next hnext => ?_⟩
      cases hnext
      exact hlate before (h.last.trans hbefore)

end HomeClimate.RateLimiter
