import HomeClimate.Proofs.Control.Integration
import HomeClimate.Proofs.House.ChainedZone
import HomeClimate.Proofs.Zone.Demand
import HomeClimate.Proofs.Zone.Rendering

/-!
# What a thermostat says

The renderer of a thermostat has one bit of memory: whether it is on.  What that bit says of
the whole past is `IsLatched`: some control signal was high enough to switch it on, and no
later one was low enough to switch it off.  One more signal changes this in the way in
which the renderer changes its bit (`Hysteresis.nextOn_iff`), so the two agree through
every run (`remembers_run`).

The verdict on a value is calling exactly if the signals so far are latched, and where it is
calling there is a demand (`Thermostat.rules_on_samples`).  The demand is the signal less
the low threshold, so this too is a matter of the renderer, and neither the gains nor
their signs come into it.

Failed samples and setpoints may come at any time.  So may values that are not later than
those before them: there is a fault, no verdict and no signal.  Scalars are exact here.
-/

namespace HomeClimate

variable {ν : Type}

/-! ## Signals that latch -/

/-- Some signal was at the high threshold or above it, and all signals since then were above the low
one. -/
def IsLatched (low high : Rat) (signals : List Rat) : Prop :=
  HeldSince (fun _ x => high ≤ x) (fun y => low < y) signals

/-- A renderer that is on exactly if some signals are latched, is so after one more. -/
theorem Hysteresis.nextOn_iff {h : Hysteresis Rat} (hs : h.IsStandard) {signals : List Rat}
    (hon : h.isOn = true ↔ IsLatched (-1) 1 signals) (x : Rat) :
    h.nextOn x = true ↔ IsLatched (-1) 1 (signals ++ [x]) := by
  rw [IsLatched, heldSince_concat, ← IsLatched, ← hon, nextOn, hs.setpoint, hs.low, hs.high]
  by_cases hwas : h.isOn = true
  · have hlow : ¬ x - -1 ≤ 0 ↔ -1 < x := by constructor <;> intro <;> linarith
    rw [if_pos hwas, Bool.not_eq_true', decide_eq_false_iff_not, hlow]
    refine ⟨fun habove => Or.inr ⟨hwas, habove⟩, ?_⟩
    rintro (hhigh | ⟨-, habove⟩)
    · linarith
    · exact habove
  · have hhigh : 0 ≤ x - 1 ↔ 1 ≤ x := by constructor <;> intro <;> linarith
    rw [if_neg hwas, decide_eq_true_iff, hhigh]
    exact ⟨Or.inl, fun h => h.resolve_right fun hlatched => hwas hlatched.1⟩

theorem Hysteresis.isOn_create [Scalar ν] {name : String} {setpoint low high : ν}
    {h : Hysteresis ν} (hcreate : create name setpoint low high = .ok h) : h.isOn = false := by
  obtain ⟨_, -, hcreate⟩ := Outcome.of_bind_eq_ok hcreate
  obtain ⟨_, -, hcreate⟩ := Outcome.of_bind_eq_ok hcreate
  dsimp only at hcreate
  split at hcreate
  · cases hcreate
  · split at hcreate
    · cases hcreate
    · obtain ⟨loop, -, hcreate⟩ := Outcome.of_bind_eq_ok hcreate
      cases hcreate
      rfl

/-- A value that is later than all that was seen has a control signal, for exact numbers are
numbers. -/
theorem Pid.exists_status {c : Pid Rat} {last : Option Instant} {now : Instant}
    (h : c.SeenUpTo last) (hnow : now.IsAfter last) (value : Rat) :
    ∃ status, (c.attempt now value).2 = .ok status := by
  obtain ⟨c', hweigh, -⟩ := weigh_of_after h hnow value
  rw [attempt, hweigh]
  simp [Scalar.isNaN]

/-! ## Runs of a thermostat -/

namespace Thermostat

/-- The time of a sample that has a value, if a call brings one. -/
def valueTime? : SetpointCall ν → Option Instant
  | .sample s => s.valueTime?
  | .setpoint _ => none

/-- The times at which some calls bring values. -/
def valueTimes (calls : List (SetpointCall ν)) : List Instant := calls.filterMap valueTime?

variable [Scalar ν]

/-- The thermostat after some calls. -/
def run (t : Thermostat ν) (calls : List (SetpointCall ν)) : Thermostat ν := calls.foldl after t

@[simp] theorem run_concat (t : Thermostat ν) (calls : List (SetpointCall ν))
    (call : SetpointCall ν) : t.run (calls ++ [call]) = (t.run calls).after call := by
  simp [run]

/-- The control signal that comes of a call, if one does. -/
def signal? (t : Thermostat ν) : SetpointCall ν → Option ν
  | .sample sample => (t.controller.answer (.sample sample)).signal?
  | .setpoint _ => none

/-- The control signals of a run. -/
def signals (t : Thermostat ν) (calls : List (SetpointCall ν)) : List ν :=
  gathered after signal? t calls

theorem signals_concat (t : Thermostat ν) (calls : List (SetpointCall ν)) (call : SetpointCall ν) :
    t.signals (calls ++ [call]) = t.signals calls ++ ((t.run calls).signal? call).toList :=
  gathered_concat _ _ t calls call

/-- A value has a control signal, which is rendered, or there is a fault and the renderer does not
hear of it. -/
theorem sample_cases (t : Thermostat ν) {sample : Signal ν} {value : ν}
    (h : sample.value? = some value) :
    (∃ pid : PidStatus ν, (t.controller.attempt sample.time value).2 = .ok pid ∧
        t.signal? (.sample sample) = some pid.signal ∧
        (t.after (.sample sample)).renderer = (t.renderer.step sample.time pid.signal).1 ∧
        t.compute sample = .ok (t.after (.sample sample), sample.withValue
          (t.verdict (t.renderer.step sample.time pid.signal).2 pid.signal))) ∨
      ∃ f, (t.controller.attempt sample.time value).2 = .error f ∧
        t.signal? (.sample sample) = none ∧
        (t.after (.sample sample)).renderer = t.renderer ∧ t.compute sample = .error f := by
  simp only [signal?, Pid.signal?_answer h, after, compute, attemptSample, h, attempt]
  cases t.controller.attempt sample.time value with
  | mk controller answer =>
      cases answer with
      | ok pid => exact Or.inl ⟨pid, rfl, rfl, rfl, rfl⟩
      | error f => exact Or.inr ⟨f, rfl, rfl, rfl, rfl⟩

/-- The renderer gets the signal that comes of a call, if one does. -/
theorem renderer_after (t : Thermostat ν) (call : SetpointCall ν) :
    (t.signal? call = none ∧ (t.after call).renderer = t.renderer) ∨
      ∃ now x, t.signal? call = some x ∧
        (t.after call).renderer = (t.renderer.step now x).1 := by
  cases call with
  | setpoint setpoint =>
      refine Or.inl ⟨rfl, ?_⟩
      rw [after]
      cases hset : t.setSetpoint setpoint with
      | error e => rfl
      | ok t' => exact (setSetpoint_rest hset).2
  | sample sample =>
      cases hvalue : sample.value? with
      | none =>
          refine Or.inl ⟨Pid.signal?_answer_of_none hvalue, ?_⟩
          rw [after, attemptSample_of_none hvalue]
      | some value =>
          rcases t.sample_cases hvalue with ⟨pid, -, hsignal, hrenderer, -⟩ |
            ⟨f, -, hsignal, hrenderer, -⟩
          · exact Or.inr ⟨sample.time, pid.signal, hsignal, hrenderer⟩
          · exact Or.inl ⟨hsignal, hrenderer⟩

/-! ## The order of time -/

/-- The controller of a thermostat gets the samples. -/
theorem controller_after_sample (t : Thermostat ν) (sample : Signal ν) :
    (t.after (.sample sample)).controller = t.controller.after (.sample sample) := by
  rw [after, attemptSample, Pid.after, Pid.afterSample]
  cases sample.value? with
  | none => rfl
  | some value =>
      simp only [attempt]
      cases t.controller.attempt sample.time value with
      | mk controller answer => cases answer <;> rfl

/-- What the controller has seen is not later than all values that were brought. -/
theorem seenBy_run {name : String} {setpoint : ν} {range : SetpointRange ν} {pid : PidSettings ν}
    {t : Thermostat ν} (hcreate : create name setpoint range pid = .ok t)
    (calls : List (SetpointCall ν)) : (t.run calls).controller.SeenBy (valueTimes calls) := by
  induction calls using List.reverseRecOn with
  | nil => exact ⟨none, seenUpTo_create hcreate none, nofun⟩
  | append_singleton calls call ih =>
      rw [run_concat, valueTimes, filterMap_concat]
      cases call with
      | sample sample =>
          rw [controller_after_sample]
          exact ih.after (.sample sample)
      | setpoint setpoint =>
          obtain ⟨last, hseen, hmem⟩ := ih
          refine ⟨last, ?_, fun time h => List.mem_append_left _ (hmem time h)⟩
          rw [after]
          cases hset : (t.run calls).setSetpoint setpoint with
          | error e => exact hseen
          | ok t' => exact seenUpTo_setSetpoint hset hseen

/-! ## Verdicts -/

/-- A verdict is calling exactly if the renderer is on. -/
theorem calling_verdict (t : Thermostat Rat) (now : Instant) (x : Rat) :
    (t.verdict (t.renderer.step now x).2 x).calling = (t.renderer.step now x).1.isOn := by
  show ((if t.renderer.nextOn x then (1 : Rat) else -1) == 1) = t.renderer.nextOn x
  cases t.renderer.nextOn x <;> decide

/-- The renderer of a thermostat is on exactly if some signals are latched. -/
structure Remembers (t : Thermostat Rat) (signals : List Rat) : Prop where
  standard : t.renderer.IsStandard
  isOn : t.renderer.isOn = true ↔ IsLatched (-1) 1 signals

theorem remembers_create {name : String} {setpoint : Rat} {range : SetpointRange Rat}
    {pid : PidSettings Rat} {t : Thermostat Rat} (h : create name setpoint range pid = .ok t) :
    t.Remembers [] := by
  refine ⟨(create_name h).2, ?_⟩
  obtain ⟨_, -, h⟩ := Outcome.of_bind_eq_ok h
  obtain ⟨controller, -, h⟩ := Outcome.of_bind_eq_ok h
  obtain ⟨renderer, hrenderer, h⟩ := Outcome.of_bind_eq_ok h
  cases h
  have hoff : renderer.isOn = false := Hysteresis.isOn_create (ZoneError.ofControl_eq_ok hrenderer)
  exact iff_of_false (by simp [hoff]) (not_heldSince_nil _ _)

/-- What the renderer remembers of one more call is its signal, if there is one. -/
theorem Remembers.after {t : Thermostat Rat} {signals : List Rat} (h : t.Remembers signals)
    (call : SetpointCall Rat) : (t.after call).Remembers (signals ++ (t.signal? call).toList) := by
  rcases t.renderer_after call with ⟨hsignal, hrenderer⟩ | ⟨now, x, hsignal, hrenderer⟩
  · rw [hsignal, Option.toList_none, List.append_nil]
    constructor
    case standard =>
      rw [hrenderer]
      exact h.standard
    case isOn =>
      rw [hrenderer]
      exact h.isOn
  · rw [hsignal]
    constructor
    case standard =>
      rw [hrenderer]
      exact ⟨h.standard.setpoint, h.standard.low, h.standard.high⟩
    case isOn =>
      rw [hrenderer]
      exact Hysteresis.nextOn_iff h.standard h.isOn x

theorem remembers_run {name : String} {setpoint : Rat} {range : SetpointRange Rat}
    {pid : PidSettings Rat} {t : Thermostat Rat} (hcreate : create name setpoint range pid = .ok t)
    (calls : List (SetpointCall Rat)) : (t.run calls).Remembers (t.signals calls) := by
  induction calls using List.reverseRecOn with
  | nil => exact remembers_create hcreate
  | append_singleton calls call ih =>
      rw [run_concat, signals_concat]
      exact ih.after call

/-- What a thermostat makes of a sample after some calls. -/
structure Rules (t : Thermostat Rat) (calls : List (SetpointCall Rat)) (sample : Signal Rat) :
    Prop where
  /-- A value that is later than all values before it gets a verdict. -/
  given : ∀ value, sample.value? = some value → (∀ time ∈ valueTimes calls, time < sample.time) →
    ∃ verdict, (t.run calls).compute sample =
      .ok (t.run (calls ++ [.sample sample]), sample.withValue verdict)
  /-- A verdict is calling if some signal so far was at least one and all later ones were above
  minus one, and only then. -/
  calling : ∀ next out verdict, (t.run calls).compute sample = .ok (next, out) →
    out.value? = some verdict →
      (verdict.calling = true ↔ IsLatched (-1) 1 (t.signals (calls ++ [.sample sample])))
  /-- Whoever calls demands more than nothing. -/
  demand : ∀ next out verdict, (t.run calls).compute sample = .ok (next, out) →
    out.value? = some verdict → verdict.calling = true → 0 < verdict.demand

/-- Whatever the gains are and whatever was done before, the verdict on a value is calling exactly
if the signals so far are latched, and there is a demand where it is calling. -/
theorem rules_on_samples {name : String} {setpoint : Rat} {range : SetpointRange Rat}
    {pid : PidSettings Rat} {t : Thermostat Rat} (hcreate : create name setpoint range pid = .ok t)
    (calls : List (SetpointCall Rat)) (sample : Signal Rat) : t.Rules calls sample := by
  have hremembers := remembers_run hcreate calls
  constructor
  case given =>
    intro value hvalue hnow
    obtain ⟨last, hseen, hafter⟩ := (seenBy_run hcreate calls).isAfter hnow
    obtain ⟨status, hstatus⟩ := Pid.exists_status hseen hafter value
    rcases (t.run calls).sample_cases hvalue with ⟨pid, -, -, -, hcompute⟩ | ⟨f, hfault, -⟩
    · rw [run_concat]
      exact ⟨_, hcompute⟩
    · cases hstatus.symm.trans hfault
  case calling =>
    intro next out verdict hcompute hverdict
    have hnext := (remembers_run hcreate (calls ++ [.sample sample])).isOn
    rw [run_concat] at hnext
    rw [← hnext]
    cases hvalue : sample.value? with
    | none =>
        rw [compute, attemptSample_of_none hvalue] at hcompute
        cases hcompute
        rw [Signal.value?_map, hvalue] at hverdict
        cases hverdict
    | some value =>
        rcases (t.run calls).sample_cases hvalue with ⟨pid, -, -, hrenderer, hanswer⟩ |
          ⟨f, -, -, -, hanswer⟩
        · cases hanswer.symm.trans hcompute
          rw [Signal.value?_withValue hvalue] at hverdict
          cases hverdict
          rw [hrenderer, calling_verdict]
        · cases hanswer.symm.trans hcompute
  case demand =>
    intro next out verdict hcompute hverdict
    obtain ⟨answer, hanswer, hpair⟩ := Outcome.of_map_eq_ok hcompute
    cases hpair
    exact (isEarnest_attemptSample hremembers.standard sample).2 _ hanswer verdict hverdict

/-- Where the gain is negative a den calls for warmth, through a failure and another setpoint. -/
theorem rules_in_den :
    let calls : List (SetpointCall Rat) :=
      [.sample (.healthy (.ofEpoch 0 0) 18), .setpoint 19,
       .sample (.failure (.ofEpoch 30 0) none (.sensor "gone")),
       .sample (.healthy (.ofEpoch 60 0) 19)]
    ∃ t : Thermostat Rat, create "den" 20 .standard (.ofGains (-1) 0 0 0) = .ok t ∧
      t.Rules calls (.healthy (.ofEpoch 120 0) (39 / 2)) := by
  intro calls
  have hruns : Outcome.holds (create "den" (20 : Rat) .standard (.ofGains (-1) 0 0 0))
      (fun _ => true) = true := by
    decide +kernel
  obtain ⟨t, ht, -⟩ := Outcome.exists_of_holds hruns
  exact ⟨t, ht, rules_on_samples ht calls _⟩

end Thermostat

end HomeClimate
