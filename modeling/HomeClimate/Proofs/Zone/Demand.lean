import HomeClimate.Proofs.House.Assembly
import HomeClimate.Proofs.Table
import HomeClimate.Zone.Arbiter
import Mathlib.Algebra.Order.BigOperators.Group.List
import Mathlib.Algebra.Order.Ring.Rat
import Mathlib.Tactic.Linarith

/-!
# What a calling zone demands

Demands are read as exact numbers here.

A thermostat calls when its control signal is above the low threshold, and demands
the signal less that threshold.  So a thermostat that calls demands more than
nothing, whatever the gains of its controller are and whatever signs they have.
`CallingStatus.IsEarnest` says so of a verdict, and it goes with the verdict into the
statuses of the zone, where an economizer can only take the demand away.

Statuses that are all earnest make a demand of the unit that is above zero as soon
as one zone calls that may vote: the vote is then above zero and the total is no less.
-/

namespace HomeClimate

/-! ## Verdicts -/

section Verdicts

variable {ν : Type} [Scalar ν]

/-- Whoever calls demands more than nothing. -/
def CallingStatus.IsEarnest (c : CallingStatus ν) : Prop := c.calling = true → 0 < c.demand

/-- A verdict that is earnest, if there is one. -/
def Signal.IsEarnestVerdict (s : Signal (CallingStatus ν)) : Prop :=
  ∀ c, s.value? = some c → c.IsEarnest

/-- A status whose verdict is earnest, if there is one. -/
def Signal.IsEarnestStatus (s : Signal (ZoneStatus ν)) : Prop :=
  ∀ status, s.value? = some status → status.calling.IsEarnest

theorem CallingStatus.isEarnest_idle : (CallingStatus.idle : CallingStatus ν).IsEarnest :=
  fun h => nomatch h

omit [Scalar ν] in
theorem Signal.value?_map {α β : Type} (f : α → β) (s : Signal α) :
    (s.map f).value? = s.value?.map f :=
  Health.value?_map f s.health

/-- An economizer leaves a verdict as it is, or leaves nothing of it. -/
theorem Economizer.isEarnestStatus_suppress (e : Economizer ν) {s : Signal (ZoneStatus ν)}
    (h : s.IsEarnestStatus) : (e.suppress s).IsEarnestStatus := by
  intro status hstatus
  rw [suppress, Signal.value?_map] at hstatus
  obtain ⟨status₀, hstatus₀, rfl⟩ := Option.map_eq_some_iff.mp hstatus
  dsimp only
  split
  · exact CallingStatus.isEarnest_idle
  · exact h status₀ hstatus₀

/-- A zone renders an earnest verdict as an earnest status. -/
theorem Zone.isEarnestStatus_render (z : Zone ν) {verdict : Signal (CallingStatus ν)}
    (h : verdict.IsEarnestVerdict) : (z.render verdict).IsEarnestStatus := by
  have hstatus : Signal.IsEarnestStatus ((verdict.map fun calling =>
      { settings := z.settings, calling := if z.settings.isEnabled then calling else .idle,
        economizer := none, period := z.period : ZoneStatus ν }).attributed (some z.name)) := by
    intro status hstatus
    have hvalue : (verdict.value?.map fun calling =>
        { settings := z.settings, calling := if z.settings.isEnabled then calling else .idle,
          economizer := none, period := z.period : ZoneStatus ν }) = some status := by
      rw [← Signal.value?_map]
      exact hstatus
    obtain ⟨c, hc, rfl⟩ := Option.map_eq_some_iff.mp hvalue
    dsimp only
    split
    · exact h c hc
    · exact CallingStatus.isEarnest_idle
  rw [render]
  cases z.economizer with
  | none => exact hstatus
  | some e => exact e.isEarnestStatus_suppress hstatus

end Verdicts

/-! ## Thermostats -/

/-- A hysteresis controller around zero is on only for values above its low threshold. -/
theorem Hysteresis.lt_of_nextOn {h : Hysteresis Rat} (hs : h.IsStandard) {value : Rat}
    (hon : h.nextOn value = true) : 0 < value - h.low := by
  rw [nextOn, hs.setpoint] at hon
  by_cases hwas : h.isOn = true
  · rw [if_pos hwas] at hon
    have hnot : ¬ value - h.low ≤ 0 := by simpa using hon
    linarith
  · rw [if_neg hwas, hs.high] at hon
    have hhigh : 0 ≤ value - 1 := by simpa using hon
    rw [hs.low]
    linarith

namespace Thermostat

/-- A verdict is earnest, and the renderer keeps its thresholds. -/
theorem isEarnest_attempt {t : Thermostat Rat} (ht : t.renderer.IsStandard) (now : Instant)
    (value : Rat) :
    (t.attempt now value).1.renderer.IsStandard ∧
      ∀ c, (t.attempt now value).2 = .ok c → c.IsEarnest := by
  rw [attempt]
  cases t.controller.attempt now value with
  | mk controller answer =>
      cases answer with
      | error f => exact ⟨ht, fun c hc => nomatch hc⟩
      | ok pid =>
          refine ⟨⟨ht.setpoint, ht.low, ht.high⟩, fun c hc hcalling => ?_⟩
          cases hc
          cases hon : t.renderer.nextOn pid.signal with
          | true => exact Hysteresis.lt_of_nextOn ht hon
          | false =>
              simp only [verdict, hon] at hcalling
              exact absurd hcalling (by decide)

theorem isEarnest_attemptSample {t : Thermostat Rat} (ht : t.renderer.IsStandard)
    (sample : Signal Rat) :
    (t.attemptSample sample).1.renderer.IsStandard ∧
      ∀ verdict, (t.attemptSample sample).2 = .ok verdict → verdict.IsEarnestVerdict := by
  rw [attemptSample]
  cases hv : sample.value? with
  | none =>
      refine ⟨ht, fun verdict hverdict c hc => ?_⟩
      cases hverdict
      rw [Signal.value?_map, hv] at hc
      cases hc
  | some v =>
      obtain ⟨hnext, hearnest⟩ := isEarnest_attempt ht sample.time v
      refine ⟨hnext, fun verdict hverdict c hc => ?_⟩
      obtain ⟨c₀, hc₀, rfl⟩ := Outcome.of_map_eq_ok hverdict
      rw [Signal.withValue, Signal.value?_map, hv] at hc
      cases hc
      exact hearnest c₀ hc₀

end Thermostat

/-! ## Zones -/

/-- A zone with the thresholds that all zones are made with, whose last verdict is earnest. -/
structure Zone.IsEarnest (z : Zone Rat) : Prop where
  renderer : z.thermostat.renderer.IsStandard
  verdict : ∀ verdict, z.lastVerdict = some verdict → verdict.IsEarnestVerdict

namespace Zone

theorem IsNew.isEarnest {z : Zone Rat} {name : String} (h : z.IsNew name) : z.IsEarnest :=
  ⟨h.renderer, fun _ hverdict => by rw [h.lastVerdict] at hverdict; cases hverdict⟩

/-- The last verdict is shown earnestly under whatever settings. -/
theorem IsEarnest.replay {z : Zone Rat} (h : z.IsEarnest) {status : Signal (ZoneStatus Rat)}
    (hstatus : z.replay? = some status) : status.IsEarnestStatus := by
  obtain ⟨verdict, hverdict, rfl⟩ := Option.map_eq_some_iff.mp hstatus
  exact z.isEarnestStatus_render (h.verdict verdict hverdict)

/-- A sample leaves an earnest zone earnest, and what it shows then is earnest. -/
theorem IsEarnest.compute {z z' : Zone Rat} (h : z.IsEarnest) {now : Instant}
    {sample : Signal Rat} {status : Signal (ZoneStatus Rat)}
    (hcompute : z.compute now sample = .ok (z', status)) :
    z'.IsEarnest ∧ status.IsEarnestStatus := by
  obtain ⟨_, hok, heq⟩ := Outcome.of_map_eq_ok hcompute
  cases heq
  obtain ⟨hstandard, hearnest⟩ :=
    Thermostat.isEarnest_attemptSample h.renderer (sample.attributed none)
  obtain ⟨verdict, hverdict, hlast, rfl⟩ := Zone.attempt_ok hok
  rw [hverdict] at hstandard hearnest
  have hsays := hearnest verdict rfl
  refine ⟨⟨hstandard, fun verdict' hverdict' => ?_⟩, isEarnestStatus_render _ hsays⟩
  rw [hlast] at hverdict'
  cases hverdict'
  exact hsays

end Zone

/-! ## The arbiter -/

theorem Scalar.sum_cons (x : Rat) (xs : List Rat) : sum (x :: xs) = x + sum xs := by
  have hsum : ∀ ys : List Rat, sum ys = ys.sum := fun _ => List.sum_eq_foldl.symm
  rw [hsum, hsum, List.sum_cons]

/-- The order in which numbers are added does not matter. -/
theorem Scalar.sum_eq_of_perm {xs ys : List Rat} (h : xs.Perm ys) : sum xs = sum ys := by
  have hsum : ∀ zs : List Rat, sum zs = zs.sum := fun _ => List.sum_eq_foldl.symm
  rw [hsum, hsum, h.sum_eq]

theorem Scalar.sum_pos {xs : List Rat} (h : ∀ x ∈ xs, 0 < x) (hne : xs ≠ []) : 0 < sum xs := by
  have hsum : sum xs = xs.sum := List.sum_eq_foldl.symm
  rw [hsum]
  exact List.sum_pos xs h hne

theorem Scalar.sum_le_sum {xs ys : List Rat} (h : xs.Sublist ys) (hys : ∀ y ∈ ys, 0 ≤ y) :
    sum xs ≤ sum ys := by
  have hsum : ∀ zs : List Rat, sum zs = zs.sum := fun _ => List.sum_eq_foldl.symm
  rw [hsum xs, hsum ys]
  exact h.sum_le_sum hys

/-- A vote above zero and a total that is no less make a demand above zero. -/
theorem arbitrate_pos {total vote : Rat} (hvote : 0 < vote) (htotal : vote ≤ total) (voters : Nat) :
    0 < arbitrate total vote voters := by
  have hne : (vote == 0) = false := by
    rw [beq_eq_false_iff_ne]
    exact ne_of_gt hvote
  rw [arbitrate, hne, Bool.false_and, if_neg Bool.false_ne_true]
  split
  · exact lt_of_lt_of_le hvote htotal
  · exact hvote

namespace Arbiter

/-- Statuses that ask for something ask for more than nothing, if all are earnest. -/
theorem pos_of_mem_asking {a : Arbiter Rat} (h : ∀ e ∈ a.statuses, e.2.IsEarnestStatus)
    {s : ZoneStatus Rat} (hs : s ∈ a.asking) : 0 < s.calling.demand := by
  obtain ⟨signal, hsignal, hasked⟩ := List.mem_filterMap.mp hs
  obtain ⟨e, he, rfl⟩ := List.mem_map.mp hsignal
  obtain ⟨hvalue, hasks⟩ := Option.filter_eq_some_iff.mp hasked
  exact h e he s hvalue (Bool.and_eq_true_iff.mp hasks).2

/-- Whether the latest status of a zone is that of one that is enabled, may vote, and calls. -/
def isCalledBy {ν : Type} (a : Arbiter ν) (name : String) : Bool :=
  ((a.statuses.get? name).bind Signal.value?).any fun status =>
    status.settings.isEnabled && status.settings.isVoting && status.calling.calling

/-- One zone that calls and may vote is enough for a demand above zero. -/
theorem demand_pos {a : Arbiter Rat} (h : ∀ e ∈ a.statuses, e.2.IsEarnestStatus)
    {name : String} (hcalled : a.isCalledBy name = true) (settings : List (ZoneSettings Rat)) :
    0 < a.demand settings := by
  obtain ⟨status, hstatus, hcalls⟩ := (Option.any_eq_true _ _).mp hcalled
  obtain ⟨signal, hfound, hvalue⟩ := Option.bind_eq_some_iff.mp hstatus
  obtain ⟨hmay, hcalling⟩ := Bool.and_eq_true_iff.mp hcalls
  obtain ⟨henabled, hvoting⟩ := Bool.and_eq_true_iff.mp hmay
  have hsignal := Table.mem_of_get? hfound
  have hasking : status ∈ a.asking := by
    refine List.mem_filterMap.mpr ⟨signal, List.mem_map.mpr ⟨_, hsignal, rfl⟩, ?_⟩
    exact Option.filter_eq_some_iff.mpr ⟨hvalue, Bool.and_eq_true_iff.mpr ⟨henabled, hcalling⟩⟩
  have hvotes : status ∈ a.votes := List.mem_filter.mpr ⟨hasking, hvoting⟩
  have hsub : (a.votes.map fun s => s.calling.demand).Sublist
      (a.asking.map fun s => s.calling.demand) := List.filter_sublist.map _
  have hpos : ∀ d ∈ a.asking.map fun s => s.calling.demand, 0 < d := by
    intro d hd
    obtain ⟨s, hs, rfl⟩ := List.mem_map.mp hd
    exact pos_of_mem_asking h hs
  have hvote : 0 < sumDemand a.votes := by
    refine Scalar.sum_pos (fun d hd => hpos d (hsub.subset hd)) ?_
    exact List.ne_nil_of_mem (List.mem_map.mpr ⟨status, hvotes, rfl⟩)
  have htotal : sumDemand a.votes ≤ sumDemand a.asking :=
    Scalar.sum_le_sum hsub fun d hd => le_of_lt (hpos d hd)
  exact arbitrate_pos hvote htotal (countVoters settings)

end Arbiter

end HomeClimate
