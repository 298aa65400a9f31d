import HomeClimate.Proofs.Filter.Medians
import Mathlib.Data.List.DropRight

/-!
# The median over the last signals

The median filter holds the last signals that it was given, as many as its depth says or
as many as there were (`Median.after_eq`).  A signal that comes takes the place of the
oldest one, whatever is wrong with either of them.

So its answer is the median of a window (`Median.follows_window`).  It does not depend on
what was before that, and it recovers from a failure once that has left the window.
-/

namespace HomeClimate

variable {ν : Type}

/-! ## Windows -/

/-- The oldest of a full window makes room. -/
theorem room_in_rtake (signals : List (Signal ν)) (n : Nat) :
    (if (signals.rtake (n + 1)).length = n + 1 then (signals.rtake (n + 1)).drop 1
      else signals.rtake (n + 1)) = signals.rtake n := by
  rw [List.rtake, List.rtake]
  by_cases hfull : n + 1 ≤ signals.length
  · have hlength : (signals.drop (signals.length - (n + 1))).length = n + 1 := by
      rw [List.length_drop]
      omega
    rw [if_pos hlength, List.drop_drop]
    congr 1
    omega
  · have hlength : ¬ (signals.drop (signals.length - (n + 1))).length = n + 1 := by
      rw [List.length_drop]
      omega
    rw [if_neg hlength]
    congr 1
    omega

theorem ne_nil_of_rtake_concat {depth : Nat} (hdepth : 1 ≤ depth) (heard : List (Signal ν))
    (s : Signal ν) : (heard ++ [s]).rtake depth ≠ [] := by
  obtain ⟨n, rfl⟩ := Nat.exists_eq_add_of_le' hdepth
  rw [List.rtake_concat_succ]
  simp

namespace Median

theorem create_eq_ok {depth : Nat} (hdepth : 1 ≤ depth) (hroom : depth ≤ roomLimit)
    (average : ν → ν → ν) :
    (create depth average : Except FilterError (Median ν)) = .ok ⟨depth, average, []⟩ := by
  rw [create, if_neg (Nat.not_lt.mpr hdepth), if_neg (Nat.not_lt.mpr hroom)]

variable [Scalar ν]

/-- The filter after some signals. -/
def after (m : Median ν) (signals : List (Signal ν)) : Median ν :=
  signals.foldl (fun m s => (m.process s).1) m

theorem after_concat (m : Median ν) (heard : List (Signal ν)) (s : Signal ν) :
    m.after (heard ++ [s]) = ((m.after heard).process s).1 := by
  rw [after, List.foldl_append, List.foldl_cons, List.foldl_nil, after]

/-- A filter that holds the last signals holds the last signals after another. -/
theorem process_eq {depth : Nat} (hdepth : 1 ≤ depth) (average : ν → ν → ν)
    (heard : List (Signal ν)) (s : Signal ν) :
    (⟨depth, average, heard.rtake depth⟩ : Median ν).process s =
      (⟨depth, average, (heard ++ [s]).rtake depth⟩,
        { s with health := reduce average ((heard ++ [s]).rtake depth) }) := by
  obtain ⟨n, rfl⟩ := Nat.exists_eq_add_of_le' hdepth
  rw [process]
  dsimp only
  rw [room_in_rtake, List.rtake_concat_succ]

theorem after_eq {depth : Nat} (hdepth : 1 ≤ depth) (average : ν → ν → ν)
    (heard : List (Signal ν)) :
    (⟨depth, average, []⟩ : Median ν).after heard = ⟨depth, average, heard.rtake depth⟩ := by
  induction heard using List.reverseRecOn with
  | nil => simp [after]
  | append_singleton heard s ih => rw [after_concat, ih, process_eq hdepth]

/-- A filter answers with the median of the last signals. -/
structure FollowsWindow (m : Median ν) (depth : Nat) (average : ν → ν → ν) : Prop where
  /-- It never holds more signals than its depth says. -/
  bounded : ∀ heard, (m.after heard).buffer.length ≤ depth
  /-- Signals before the window make no difference. -/
  determined : ∀ heard heard' s s',
    (heard ++ [s]).rtake depth = (heard' ++ [s']).rtake depth →
      ((m.after heard).process s).2 = ((m.after heard').process s').2
  time : ∀ heard s, ((m.after heard).process s).2.time = s.time
  source : ∀ heard s, ((m.after heard).process s).2.source = s.source
  median : ∀ heard s, AreRanked (((heard ++ [s]).rtake depth).filterMap Signal.value?) →
    IsMedianOf average ((heard ++ [s]).rtake depth) ((m.after heard).process s).2.health

/-- A filter of a depth, to which nothing has been given, will answer with the median of the last so
many signals.  It is made if there is room for them. -/
theorem follows_window {depth : Nat} (hdepth : 1 ≤ depth) (average : ν → ν → ν) :
    (⟨depth, average, []⟩ : Median ν).FollowsWindow depth average ∧
      (depth ≤ roomLimit →
        (create depth average : Except FilterError (Median ν)) = .ok ⟨depth, average, []⟩) := by
  refine ⟨?_, fun hroom => create_eq_ok hdepth hroom average⟩
  constructor
  case bounded =>
    intro heard
    rw [after_eq hdepth, List.rtake, List.length_drop]
    omega
  case determined =>
    intro heard heard' s s' hwindow
    have hlast : s = s' := by
      obtain ⟨n, rfl⟩ := Nat.exists_eq_add_of_le' hdepth
      rw [List.rtake_concat_succ, List.rtake_concat_succ] at hwindow
      simpa using (List.append_inj' hwindow rfl).2
    rw [after_eq hdepth, after_eq hdepth, process_eq hdepth, process_eq hdepth, hwindow, hlast]
  case time =>
    intro heard s
    rw [after_eq hdepth, process_eq hdepth]
  case source =>
    intro heard s
    rw [after_eq hdepth, process_eq hdepth]
  case median =>
    intro heard s hranked
    rw [after_eq hdepth, process_eq hdepth]
    exact isMedianOf_reduce average (ne_nil_of_rtake_concat hdepth heard s) hranked

/-- Of three signals the first has left a window of two, and one of the others is a failure. -/
theorem follows_window_of_den :
    let heard : List (Signal Float) :=
      [.healthy (.ofEpoch 0 0) 20, .failure (.ofEpoch 1 0) none (.sensor "gone")]
    let s : Signal Float := .healthy (.ofEpoch 2 0) 21
    let m : Median Float := ⟨2, Scalar.mean, []⟩
    1 ≤ 2 ∧ m.FollowsWindow 2 Scalar.mean ∧
      AreRanked (((heard ++ [s]).rtake 2).filterMap Signal.value?) ∧
      IsMedianOf Scalar.mean ((heard ++ [s]).rtake 2) ((m.after heard).process s).2.health := by
  intro heard s m
  have hdepth : 1 ≤ 2 := by decide
  have hfollows : m.FollowsWindow 2 Scalar.mean := (follows_window hdepth Scalar.mean).1
  have hranked : AreRanked (((heard ++ [s]).rtake 2).filterMap Signal.value?) := by
    refine Double.areRanked_of_numbers ?_
    decide +kernel
  exact ⟨hdepth, hfollows, hranked, hfollows.median heard s hranked⟩

end Median

end HomeClimate
