import HomeClimate.Filter.Median
import HomeClimate.Proofs.Number.Ranked
import HomeClimate.Proofs.Time.Order
import Mathlib.Data.List.Induction

/-!
# What signals are reduced to

Signals are reduced to a median (`IsMedianOf`): the middle of their values in ascending
order, or the average of the two middle ones, with the latest of their errors
(`isMedianOf_reduce`).  This takes that the values stand in an order, so that sorting
them does put them in it.

The order in which the signals are given makes no difference to that but in two ways.
Of errors of one time the last counts.  And of values that share a place any may be the
middle one, so the reduced values are only as much the same as values that share a place
are (`same_reduce_of_perm`).
-/

namespace HomeClimate

variable {ν : Type}

/-! ## The latest error -/

/-- An error is the one with the greatest time, the last of several. -/
def IsLatestError (error : SignalError) (signals : List (Signal ν)) : Prop :=
  ∃ before s after, signals = before ++ s :: after ∧ s.error? = some error ∧
    (∀ other ∈ before, other.error? ≠ none → other.time ≤ s.time) ∧
    ∀ other ∈ after, other.error? ≠ none → other.time < s.time

/-- What is found among some signals: nothing if none of them has an error, or else the latest. -/
def IsLatestFound (signals : List (Signal ν)) : Option (Instant × SignalError) → Prop
  | none => ∀ s ∈ signals, s.error? = none
  | some (time, error) => ∃ before s after, signals = before ++ s :: after ∧ s.time = time ∧
      s.error? = some error ∧ (∀ other ∈ before, other.error? ≠ none → other.time ≤ time) ∧
      ∀ other ∈ after, other.error? ≠ none → other.time < time

theorem IsLatestFound.time_le {signals : List (Signal ν)} {time : Instant} {error : SignalError}
    (h : IsLatestFound signals (some (time, error))) :
    ∀ other ∈ signals, other.error? ≠ none → other.time ≤ time := by
  obtain ⟨before, s, after, rfl, rfl, -, hbefore, hafter⟩ := h
  intro other hother hne
  rw [List.mem_append, List.mem_cons] at hother
  rcases hother with hmem | rfl | hmem
  · exact hbefore other hmem hne
  · exact Instant.le_refl other.time
  · exact Instant.le_of_lt (hafter other hmem hne)

theorem IsLatestFound.exists_mem {signals : List (Signal ν)} {time : Instant} {error : SignalError}
    (h : IsLatestFound signals (some (time, error))) :
    ∃ s ∈ signals, s.time = time ∧ s.error? = some error := by
  obtain ⟨before, s, after, rfl, htime, he, -, -⟩ := h
  exact ⟨s, by simp, htime, he⟩

/-- What was found stays if what comes has no error or is earlier. -/
theorem IsLatestFound.concat {signals : List (Signal ν)} {time : Instant} {error : SignalError}
    (h : IsLatestFound signals (some (time, error))) {s : Signal ν}
    (hs : s.error? ≠ none → s.time < time) :
    IsLatestFound (signals ++ [s]) (some (time, error)) := by
  obtain ⟨before, u, after, rfl, htime, herror, hbefore, hafter⟩ := h
  refine ⟨before, u, after ++ [s], by simp, htime, herror, hbefore, ?_⟩
  intro other hother
  rcases List.mem_append.mp hother with hmem | hmem
  · exact hafter other hmem
  · rw [List.mem_singleton.mp hmem]
    exact hs

/-- An error that no error was later than is what is found next. -/
theorem isLatestFound_concat {signals : List (Signal ν)} {s : Signal ν} {error : SignalError}
    (hs : s.error? = some error)
    (h : ∀ other ∈ signals, other.error? ≠ none → other.time ≤ s.time) :
    IsLatestFound (signals ++ [s]) (some (s.time, error)) :=
  ⟨signals, s, [], rfl, rfl, hs, h, by simp⟩

theorem latestError?_concat (signals : List (Signal ν)) (s : Signal ν) :
    latestError? (signals ++ [s]) =
      match s.error?, latestError? signals with
      | none, found => found
      | some e, none => some (s.time, e)
      | some e, some (t, f) => if s.time < t then some (t, f) else some (s.time, e) := by
  rw [latestError?, List.foldl_append, ← latestError?, List.foldl_cons, List.foldl_nil]
  cases s.error? <;> cases latestError? signals <;> rfl

theorem isLatestFound_latestError? (signals : List (Signal ν)) :
    IsLatestFound signals (latestError? signals) := by
  induction signals using List.reverseRecOn with
  | nil => exact fun s hs => nomatch hs
  | append_singleton signals s ih =>
      rw [latestError?_concat]
      cases hfound : latestError? signals with
      | none =>
          rw [hfound] at ih
          cases he : s.error? with
          | none =>
              intro other hother
              rcases List.mem_append.mp hother with hmem | hmem
              · exact ih other hmem
              · rw [List.mem_singleton.mp hmem]
                exact he
          | some e =>
              refine isLatestFound_concat he ?_
              intro other hother hne
              exact absurd (ih other hother) hne
      | some found =>
          rw [hfound] at ih
          cases he : s.error? with
          | none => exact ih.concat fun hne => absurd he hne
          | some e =>
              dsimp only
              split
              next hearlier => exact ih.concat fun _ => hearlier
              next hlater =>
                refine isLatestFound_concat he ?_
                intro other hother hne
                exact Instant.le_trans (ih.time_le other hother hne) (Instant.not_lt.mp hlater)

theorem isLatestError_of_latestError? {signals : List (Signal ν)} {time : Instant}
    {error : SignalError} (h : latestError? signals = some (time, error)) :
    IsLatestError error signals := by
  have hfound := isLatestFound_latestError? signals
  rw [h] at hfound
  obtain ⟨before, s, after, hsplit, rfl, herror, hbefore, hafter⟩ := hfound
  exact ⟨before, s, after, hsplit, herror, hbefore, hafter⟩

theorem latestError?_eq_none_iff {signals : List (Signal ν)} :
    latestError? signals = none ↔ ∀ s ∈ signals, s.error? = none := by
  have hfound := isLatestFound_latestError? signals
  cases h : latestError? signals with
  | none =>
      rw [h] at hfound
      exact ⟨fun _ => hfound, fun _ => rfl⟩
  | some found =>
      refine ⟨fun h => (nomatch h), ?_⟩
      intro hnone
      obtain ⟨before, s, after, rfl, he, -⟩ := isLatestError_of_latestError? h
      rw [hnone s (by simp)] at he
      cases he

/-- No two signals that have errors are of one time. -/
def ErrorsApart (signals : List (Signal ν)) : Prop :=
  ∀ s ∈ signals, ∀ t ∈ signals, s.error? ≠ none → t.error? ≠ none → s.time = t.time → s = t

/-- Where errors are apart, the order of the signals makes no difference to the latest. -/
theorem latestError?_eq_of_perm {signals signals' : List (Signal ν)} (hperm : signals.Perm signals')
    (hapart : ErrorsApart signals) : latestError? signals = latestError? signals' := by
  have hfound := isLatestFound_latestError? signals
  have hfound' := isLatestFound_latestError? signals'
  cases h : latestError? signals with
  | none =>
      refine (latestError?_eq_none_iff.mpr ?_).symm
      intro s hs
      exact latestError?_eq_none_iff.mp h s (hperm.mem_iff.mpr hs)
  | some found =>
      cases h' : latestError? signals' with
      | none =>
          rw [latestError?_eq_none_iff.mpr] at h
          · cases h
          · intro s hs
            exact latestError?_eq_none_iff.mp h' s (hperm.mem_iff.mp hs)
      | some found' =>
          rw [h] at hfound
          rw [h'] at hfound'
          obtain ⟨s, hs, htime, he⟩ := hfound.exists_mem
          obtain ⟨s', hs', htime', he'⟩ := hfound'.exists_mem
          have hle : s'.time ≤ s.time :=
            htime ▸ hfound.time_le s' (hperm.mem_iff.mpr hs') (by simp [he'])
          have hle' : s.time ≤ s'.time :=
            htime' ▸ hfound'.time_le s (hperm.mem_iff.mp hs) (by simp [he])
          have hsame : s = s' :=
            hapart s hs s' (hperm.mem_iff.mpr hs') (by simp [he]) (by simp [he'])
              (Instant.le_antisymm hle' hle)
          subst hsame
          rw [he] at he'
          exact congrArg some (Prod.ext (htime.symm.trans htime') (Option.some.inj he'))

/-! ## The middle -/

/-- The middle of a list: nothing, the one with as many before as after it, or the average of two
such. -/
inductive IsMiddle (average : ν → ν → ν) : List ν → Option ν → Prop
  | nothing : IsMiddle average [] none
  | one (before after : List ν) (v : ν) :
      before.length = after.length → IsMiddle average (before ++ v :: after) (some v)
  | two (before after : List ν) (lower upper : ν) :
      before.length = after.length →
        IsMiddle average (before ++ lower :: upper :: after) (some (average lower upper))

theorem exists_split_of_lt {values : List ν} {n : Nat} (h : n < values.length) :
    ∃ before v after, values = before ++ v :: after ∧ before.length = n := by
  obtain ⟨v, after, hdrop⟩ : ∃ v after, values.drop n = v :: after :=
    List.exists_cons_of_length_pos (by rw [List.length_drop]; omega)
  refine ⟨values.take n, v, after, ?_, by rw [List.length_take]; omega⟩
  rw [← hdrop, List.take_append_drop]

theorem middle?_odd (average : ν → ν → ν) {before after : List ν} (v : ν)
    (h : before.length = after.length) : middle? average (before ++ v :: after) = some v := by
  have hlength : (before ++ v :: after).length = 2 * before.length + 1 := by
    simp only [List.length_append, List.length_cons]
    omega
  have hhalf : (before ++ v :: after).length / 2 = before.length := by omega
  have hparity : (before ++ v :: after).length % 2 = 1 := by omega
  have hget : (before ++ v :: after)[before.length]? = some v := by simp
  simp only [middle?, hhalf, hget, if_pos hparity]

theorem middle?_even (average : ν → ν → ν) {before after : List ν} (lower upper : ν)
    (h : before.length = after.length) :
    middle? average (before ++ lower :: upper :: after) = some (average lower upper) := by
  have hlength : (before ++ lower :: upper :: after).length = 2 * (before.length + 1) := by
    simp only [List.length_append, List.length_cons]
    omega
  have hhalf : (before ++ lower :: upper :: after).length / 2 = before.length + 1 := by omega
  have hparity : ¬ (before ++ lower :: upper :: after).length % 2 = 1 := by omega
  have hupper : (before ++ lower :: upper :: after)[before.length + 1]? = some upper := by simp
  have hlower : (before ++ lower :: upper :: after)[before.length + 1 - 1]? = some lower := by simp
  simp only [middle?, hhalf, hupper, hlower, if_neg hparity, Option.map_some]

theorem isMiddle_middle? (average : ν → ν → ν) (values : List ν) :
    IsMiddle average values (middle? average values) := by
  obtain ⟨n, heven | hodd⟩ := Nat.even_or_odd' values.length
  · cases n with
    | zero =>
        rw [List.length_eq_zero_iff.mp heven]
        exact IsMiddle.nothing
    | succ n =>
        obtain ⟨before, lower, rest, rfl, hbefore⟩ :=
          exists_split_of_lt (show n < values.length by omega)
        rw [List.length_append, List.length_cons] at heven
        cases rest with
        | nil =>
            rw [List.length_nil] at heven
            omega
        | cons upper after =>
            rw [List.length_cons] at heven
            have hlength : before.length = after.length := by omega
            rw [middle?_even average lower upper hlength]
            exact IsMiddle.two before after lower upper hlength
  · obtain ⟨before, v, after, rfl, hbefore⟩ :=
      exists_split_of_lt (show n < values.length by omega)
    rw [List.length_append, List.length_cons] at hodd
    have hlength : before.length = after.length := by omega
    rw [middle?_odd average v hlength]
    exact IsMiddle.one before after v hlength

theorem IsMiddle.eq_none_iff {average : ν → ν → ν} {values : List ν} {middle : Option ν}
    (h : IsMiddle average values middle) : middle = none ↔ values = [] := by
  cases h with
  | nothing => simp
  | one before after v hlength => simp
  | two before after lower upper hlength => simp

/-! ## Health from its parts -/

theorem value?_reducedHealth (value : Option ν) (error : Option SignalError) :
    (reducedHealth value error).value? = value := by
  cases value <;> cases error <;> rfl

theorem status_reducedHealth_eq_ok_iff {value : Option ν} {error : Option SignalError} :
    (reducedHealth value error).status = .ok ↔ value ≠ none ∧ error = none := by
  cases value <;> cases error <;> simp [reducedHealth, Health.status]

theorem status_reducedHealth_eq_failure_iff {value : Option ν} {error : Option SignalError} :
    (reducedHealth value error).status = .totalFailure ↔ value = none := by
  cases value <;> cases error <;> simp [reducedHealth, Health.status]

theorem error?_reducedHealth {value : Option ν} {error : Option SignalError}
    (h : value ≠ none ∨ error ≠ none) : (reducedHealth value error).error? = error := by
  cases value <;> cases error <;> first | rfl | simp at h

/-- Two healths are the same, if values are the same that are related. -/
def SameHealth (same : ν → ν → Prop) (h h' : Health ν) : Prop :=
  Option.Rel same h.value? h'.value? ∧ h.error? = h'.error?

theorem sameHealth_reducedHealth {same : ν → ν → Prop} {value value' : Option ν}
    (h : Option.Rel same value value') (error : Option SignalError) :
    SameHealth same (reducedHealth value error) (reducedHealth value' error) := by
  refine ⟨?_, ?_⟩
  · rw [value?_reducedHealth, value?_reducedHealth]
    exact h
  · cases h with
    | none => rfl
    | some hsame => cases error <;> rfl

/-- If only identical values are the same, only identical healths are. -/
theorem SameHealth.eq {h h' : Health ν} (hsame : SameHealth Eq h h') : h = h' := by
  obtain ⟨hvalue, herror⟩ := hsame
  cases h <;> cases h' <;> cases hvalue <;> cases herror <;> subst_vars <;> rfl

section Sorted

variable [Scalar ν]

/-! ## Values in order -/

/-- No value is below one before it. -/
def InOrder (values : List ν) : Prop := values.Pairwise fun a b => ¬ b < a

theorem perm_ascending (values : List ν) : (ascending values).Perm values :=
  List.mergeSort_perm values _

/-- Values that stand in an order are put in it. -/
theorem inOrder_ascending {values : List ν} (h : AreRanked values) :
    InOrder (ascending values) := by
  -- sorting asks of all values that they stand in an order, so it is seen through those that do
  let below (a b : { v // v ∈ values }) : Bool := !decide (b.1 < a.1)
  have hbelow : ∀ a b, below a b = true ↔ ¬ b.1 < a.1 := by
    intro a b
    rw [Bool.not_eq_true', decide_eq_false_iff_not]
  have hsorted : (values.attach.mergeSort below).Pairwise fun a b => below a b = true := by
    refine List.pairwise_mergeSort ?_ ?_ values.attach
    · intro a b c hab hbc
      rw [hbelow] at *
      exact h.trans a.1 a.2 b.1 b.2 c.1 c.2 hab hbc
    · intro a b
      rw [Bool.or_eq_true, hbelow, hbelow]
      by_cases hab : a.1 < b.1
      · exact Or.inl (h.asymm a.1 a.2 b.1 b.2 hab)
      · exact Or.inr hab
  have hmap : (values.attach.mergeSort below).map Subtype.val = ascending values := by
    rw [List.map_mergeSort (s := fun a b => !decide (b < a)) fun a _ b _ => rfl,
      List.attach_map_subtype_val, ascending]
  rw [InOrder, ← hmap, List.pairwise_map]
  refine hsorted.imp ?_
  intro a b hab
  exact (hbelow a b).mp hab

/-- The values up to one in an order are not above it. -/
theorem length_lt_countP {before after : List ν} {v : ν}
    (hranked : AreRanked (before ++ v :: after)) (horder : InOrder (before ++ v :: after)) :
    before.length < (before ++ v :: after).countP fun x => !decide (v < x) := by
  have hself : ¬ v < v := hranked.irrefl (by simp)
  have hbefore : before.countP (fun x => !decide (v < x)) = before.length := by
    refine List.countP_eq_length.mpr ?_
    intro x hx
    have hvx := (List.pairwise_append.mp horder).2.2 x hx v List.mem_cons_self
    simpa using hvx
  rw [List.countP_append, hbefore, List.countP_cons_of_pos (by simpa using hself)]
  omega

/-- The values from one on in an order are above what that one is above. -/
theorem countP_le_length {before after : List ν} {u v : ν}
    (hranked : AreRanked (before ++ v :: after)) (hu : u ∈ before ++ v :: after)
    (horder : InOrder (before ++ v :: after)) (huv : u < v) :
    (before ++ v :: after).countP (fun x => !decide (u < x)) ≤ before.length := by
  have hv : v ∈ before ++ v :: after := by simp
  have hafter : (v :: after).countP (fun x => !decide (u < x)) = 0 := by
    refine List.countP_eq_zero.mpr ?_
    intro x hx
    have hxv : ¬ x < v := by
      rcases List.mem_cons.mp hx with rfl | hmem
      · exact hranked.irrefl hv
      · exact (List.pairwise_cons.mp (List.pairwise_append.mp horder).2.1).1 x hmem
    have hux : u < x := hranked.lt_of_lt_of_not_lt hu hv (List.mem_append_right before hx) huv hxv
    simpa using hux
  rw [List.countP_append, hafter]
  exact List.countP_le_length

/-- Two values at the same place of two orders of the same values are in no order. -/
theorem not_lt_of_inOrder {before after before' after' : List ν} {v v' : ν}
    (hranked : AreRanked (before ++ v :: after)) (horder : InOrder (before ++ v :: after))
    (horder' : InOrder (before' ++ v' :: after'))
    (hperm : (before ++ v :: after).Perm (before' ++ v' :: after'))
    (hlength : before.length = before'.length) : ¬ v < v' := by
  intro hlt
  -- what is not above `v` is counted on both sides: more than come before it, but no more
  have hleft := length_lt_countP hranked horder
  have hright := countP_le_length (hranked.subset hperm.symm.subset) (hperm.subset (by simp))
    horder' hlt
  rw [← hperm.countP_eq] at hright
  omega

/-! ## Reduced signals -/

/-- Health is that of the median of some signals. -/
structure IsMedianOf (average : ν → ν → ν) (signals : List (Signal ν)) (health : Health ν) :
    Prop where
  value : ∃ sorted, sorted.Perm (signals.filterMap Signal.value?) ∧ InOrder sorted ∧
    IsMiddle average sorted health.value?
  ok : health.status = .ok ↔ ∀ s ∈ signals, s.error? = none
  failure : health.status = .totalFailure ↔ ∀ s ∈ signals, s.value? = none
  error : ∀ e, health.error? = some e → IsLatestError e signals

theorem middle?_ascending_eq_none_iff {average : ν → ν → ν} {signals : List (Signal ν)} :
    middle? average (ascending (signals.filterMap Signal.value?)) = none ↔
      ∀ s ∈ signals, s.value? = none := by
  rw [(isMiddle_middle? average _).eq_none_iff, ← List.filterMap_eq_nil_iff,
    ← List.length_eq_zero_iff, ← List.length_eq_zero_iff, (perm_ascending _).length_eq]

/-- Signals whose values stand in an order are reduced to their median. -/
theorem isMedianOf_reduce (average : ν → ν → ν) {signals : List (Signal ν)} (hsome : signals ≠ [])
    (hranked : AreRanked (signals.filterMap Signal.value?)) :
    IsMedianOf average signals (reduce average signals) := by
  obtain ⟨s, hs⟩ := List.exists_mem_of_ne_nil signals hsome
  rw [reduce]
  generalize hvalue : middle? average (ascending (signals.filterMap Signal.value?)) = value
  have hnone : value = none ↔ ∀ s ∈ signals, s.value? = none :=
    hvalue ▸ middle?_ascending_eq_none_iff
  have hhealthy : (latestError? signals).map Prod.snd = none ↔ ∀ s ∈ signals, s.error? = none := by
    rw [Option.map_eq_none_iff, latestError?_eq_none_iff]
  have heither : value ≠ none ∨ (latestError? signals).map Prod.snd ≠ none := by
    by_contra hneither
    obtain ⟨hvalueless, herrorless⟩ := not_or.mp hneither
    obtain ⟨e, he⟩ := Signal.exists_error (hnone.mp (not_not.mp hvalueless) s hs)
    rw [hhealthy.mp (not_not.mp herrorless) s hs] at he
    cases he
  constructor
  case value =>
    refine ⟨_, perm_ascending _, inOrder_ascending hranked, ?_⟩
    rw [value?_reducedHealth, ← hvalue]
    exact isMiddle_middle? average _
  case ok =>
    rw [status_reducedHealth_eq_ok_iff, ← hhealthy]
    refine ⟨fun h => h.2, ?_⟩
    intro herrorless
    exact ⟨heither.resolve_right (not_not.mpr herrorless), herrorless⟩
  case failure => rw [status_reducedHealth_eq_failure_iff, hnone]
  case error =>
    intro e he
    rw [error?_reducedHealth heither, Option.map_eq_some_iff] at he
    obtain ⟨⟨time, error⟩, hlatest, rfl⟩ := he
    exact isLatestError_of_latestError? hlatest

/-! ## Signals in another order -/

/-- Values that share a place count as the same, and so do averages of values that do. -/
structure IsSameness (same : ν → ν → Prop) (average : ν → ν → ν) (values : List ν) : Prop where
  of_not_lt : ∀ a ∈ values, ∀ b ∈ values, ¬ a < b → ¬ b < a → same a b
  average : ∀ a a' b b', same a a' → same b b' → same (average a b) (average a' b')

theorem IsSameness.subset {same : ν → ν → Prop} {average : ν → ν → ν} {values part : List ν}
    (h : IsSameness same average values) (hsubset : part ⊆ values) :
    IsSameness same average part where
  of_not_lt a ha b hb := h.of_not_lt a (hsubset ha) b (hsubset hb)
  average := h.average

/-- Numbers that share a place are equal, and so are their means. -/
theorem isSameness_mean {values : List Float} (h : ∀ x ∈ values, (x == x) = true) :
    IsSameness Double.AreAlike Scalar.mean values where
  of_not_lt a ha b hb hab hba := Or.inr (Double.beq_of_not_lt (h a ha) (h b hb) hab hba)
  average _ _ _ _ := Double.mean_alike

/-- The values at one place of two orders of the same values are the same. -/
theorem IsSameness.of_split {same : ν → ν → Prop} {average : ν → ν → ν} {sorted sorted' : List ν}
    (hsame : IsSameness same average sorted) (hranked : AreRanked sorted)
    (hperm : sorted.Perm sorted') (horder : InOrder sorted) (horder' : InOrder sorted')
    {before after before' after' : List ν} {v v' : ν} (hsplit : sorted = before ++ v :: after)
    (hsplit' : sorted' = before' ++ v' :: after') (hlength : before.length = before'.length) :
    same v v' := by
  have hranked' := hranked.subset hperm.symm.subset
  subst hsplit hsplit'
  refine hsame.of_not_lt v (by simp) v' (hperm.mem_iff.mpr (by simp)) ?_ ?_
  · exact not_lt_of_inOrder hranked horder horder' hperm hlength
  · exact not_lt_of_inOrder hranked' horder' horder hperm.symm hlength.symm

/-- The middles of two orders of the same values are the same. -/
theorem same_middle {same : ν → ν → Prop} {average : ν → ν → ν} {sorted sorted' : List ν}
    {middle middle' : Option ν} (hsame : IsSameness same average sorted)
    (hranked : AreRanked sorted) (hperm : sorted.Perm sorted') (horder : InOrder sorted)
    (horder' : InOrder sorted') (hmiddle : IsMiddle average sorted middle)
    (hmiddle' : IsMiddle average sorted' middle') : Option.Rel same middle middle' := by
  have hplace : ∀ before v after before' v' after', sorted = before ++ v :: after →
      sorted' = before' ++ v' :: after' → before.length = before'.length → same v v' :=
    fun _ _ _ _ _ _ => hsame.of_split hranked hperm horder horder'
  have hlength := hperm.length_eq
  cases hmiddle with
  | nothing =>
      cases hmiddle' with
      | nothing => exact Option.Rel.none
      | one before' after' v' h' => simp at hlength
      | two before' after' lower' upper' h' => simp at hlength
  | one before after v h =>
      cases hmiddle' with
      | nothing => simp at hlength
      | one before' after' v' h' =>
          simp only [List.length_append, List.length_cons] at hlength
          exact Option.Rel.some (hplace _ _ _ _ _ _ rfl rfl (by omega))
      | two before' after' lower' upper' h' =>
          simp only [List.length_append, List.length_cons] at hlength
          omega
  | two before after lower upper h =>
      cases hmiddle' with
      | nothing => simp at hlength
      | one before' after' v' h' =>
          simp only [List.length_append, List.length_cons] at hlength
          omega
      | two before' after' lower' upper' h' =>
          simp only [List.length_append, List.length_cons] at hlength
          refine Option.Rel.some (hsame.average lower lower' upper upper' ?_ ?_)
          · exact hplace _ _ _ _ _ _ rfl rfl (by omega)
          · refine hplace _ _ _ _ _ _ (List.append_cons before lower _)
              (List.append_cons before' lower' _) ?_
            simp only [List.length_append, List.length_singleton]
            omega

/-- The order in which signals are reduced makes no difference to what is made of them, if their
values stand in an order and their errors are apart. -/
theorem same_reduce_of_perm {same : ν → ν → Prop} {average : ν → ν → ν}
    {signals signals' : List (Signal ν)} (hperm : signals.Perm signals')
    (hranked : AreRanked (signals.filterMap Signal.value?))
    (hsame : IsSameness same average (signals.filterMap Signal.value?))
    (hapart : ErrorsApart signals) :
    SameHealth same (reduce average signals) (reduce average signals') := by
  have hvalues : (signals.filterMap Signal.value?).Perm (signals'.filterMap Signal.value?) :=
    hperm.filterMap Signal.value?
  have hsorted := perm_ascending (signals.filterMap Signal.value?)
  have hsorted' := perm_ascending (signals'.filterMap Signal.value?)
  have hmiddle := same_middle (hsame.subset hsorted.subset) (hranked.subset hsorted.subset)
    (hsorted.trans (hvalues.trans hsorted'.symm)) (inOrder_ascending hranked)
    (inOrder_ascending (hranked.subset hvalues.symm.subset)) (isMiddle_middle? average _)
    (isMiddle_middle? average _)
  rw [reduce, reduce, latestError?_eq_of_perm hperm hapart]
  exact sameHealth_reducedHealth hmiddle _

end Sorted

end HomeClimate
