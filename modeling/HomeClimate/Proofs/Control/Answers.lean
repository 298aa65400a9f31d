import HomeClimate.Proofs.Control.AntiWindup
import HomeClimate.Proofs.Runs
import HomeClimate.Proofs.Signal.Envelope
import HomeClimate.Zone.Thermostat

/-!
# What controllers answer

A controller is told many things one after the other, and each time there is an `Answer`.
PID controllers have calls of their own (`PidCall`).  A hysteresis controller and a
thermostat are given samples and setpoints (`SetpointCall`).

A sample that has failed is answered by the same failure, and that is all that comes of
it.  So of two runs one of which is the other with failed samples in between, the rest of
the answers and the controllers at the end are the same (`failures_leave_no_trace`).  This
rests on one law of a single call, `PassesOn`, and not on what the controller is.
-/

namespace HomeClimate

variable {ν ε δ : Type}

/-! ## Answers -/

/-- What comes of a call. -/
inductive Answer (ν ε δ : Type) where
  /-- Something is said about a sample. -/
  | said (signal : Signal δ)
  /-- There is a fault. -/
  | fault (fault : Fault ν)
  /-- What was asked for is set. -/
  | accepted
  /-- What was asked for cannot be. -/
  | refused (error : ε)

namespace Answer

/-- The answer to a sample. -/
def ofSample {σ : Type} : Except (Fault ν) (σ × Signal δ) → Answer ν ε δ
  | .ok (_, s) => .said s
  | .error f => .fault f

/-- The answer to a setting. -/
def ofSetting {σ : Type} : Except ε σ → Answer ν ε δ
  | .ok _ => .accepted
  | .error e => .refused e

/-- The control signal in an answer. -/
def signal? : Answer ν ε (ControlStatus ν δ) → Option ν
  | .said s => s.value?.map ControlStatus.signal
  | _ => none

@[simp] theorem signal?_accepted :
    (.accepted : Answer ν ε (ControlStatus ν δ)).signal? = none := rfl

@[simp] theorem signal?_ofSetting {σ : Type} (result : Except ε σ) :
    (ofSetting result : Answer ν ε (ControlStatus ν δ)).signal? = none := by
  cases result <;> rfl

end Answer

/-! ## Calls -/

/-- What can be done to something that has a setpoint. -/
inductive SetpointCall (ν : Type) where
  /-- It takes a sample. -/
  | sample (sample : Signal ν)
  /-- It is to have another setpoint. -/
  | setpoint (setpoint : ν)

variable [Scalar ν]

/-- What a PID controller answers to a call. -/
def Pid.answer (c : Pid ν) : PidCall ν → Answer ν (ControlError ν) (PidStatus ν)
  | .sample sample => .ofSample (c.compute sample)
  | .setpoint setpoint => .ofSetting (c.setSetpoint setpoint)
  | .p gain => .ofSetting (c.setP gain)
  | .i gain => .ofSetting (c.setI gain)
  | .d gain => .ofSetting (c.setD gain)
  | .limit limit => .ofSetting (c.setLimit limit)
  | .resets _ => .accepted

namespace Pid

/-- The control signals of a run, one for each sample that was answered with one. -/
def signals (c : Pid ν) (calls : List (PidCall ν)) : List ν :=
  gathered after (fun c call => (c.answer call).signal?) c calls

theorem signals_concat (c : Pid ν) (calls : List (PidCall ν)) (call : PidCall ν) :
    c.signals (calls ++ [call]) =
      c.signals calls ++ ((c.run calls).answer call).signal?.toList :=
  gathered_concat _ _ c calls call

/-- A sample with a value is computed by its value. -/
theorem compute_of_value {c : Pid ν} {sample : Signal ν} {value : ν}
    (h : sample.value? = some value) :
    c.compute sample = (c.step sample.time value).map fun r => (r.1, sample.withValue r.2) := by
  obtain ⟨time, source, health⟩ := sample
  cases health with
  | ok v =>
      cases h
      rfl
  | partialFailure v e =>
      cases h
      rfl
  | totalFailure e => cases h

/-- The control signal of a sample with a value is the one that its value comes to, if it comes to
one. -/
theorem signal?_answer {c : Pid ν} {sample : Signal ν} {value : ν}
    (h : sample.value? = some value) :
    (c.answer (.sample sample)).signal? =
      (c.attempt sample.time value).2.toOption.map ControlStatus.signal := by
  rw [answer, compute_of_value h, step, Attempt.complete]
  cases (c.attempt sample.time value).2 with
  | error f => rfl
  | ok status =>
      show (sample.withValue status).value?.map ControlStatus.signal = some status.signal
      rw [Signal.value?_withValue h]
      rfl

theorem signal?_answer_of_none {c : Pid ν} {sample : Signal ν} (h : sample.value? = none) :
    (c.answer (.sample sample)).signal? = none := by
  obtain ⟨time, source, health⟩ := sample
  cases health with
  | ok v => cases h
  | partialFailure v e => cases h
  | totalFailure e => rfl

/-- What a value leaves behind: the value is weighed, and the signal is the last one if there is
one. -/
theorem attempt_of_weigh {c c' : Pid ν} {now : Instant} {value : ν}
    (h : c.weigh now value = .ok c') :
    (c.attempt now value).1 =
      { c' with lastOutput :=
          ((c.attempt now value).2.toOption.map ControlStatus.signal).or c'.lastOutput } := by
  rw [attempt, h]
  dsimp only
  split
  · rfl
  · rfl

/-- The last control signal is the one that was answered last. -/
theorem lastOutput_after (c : Pid ν) (call : PidCall ν) :
    (c.after call).lastOutput = ((c.answer call).signal?).or c.lastOutput := by
  cases hcall : call with
  | sample sample =>
      rw [after, afterSample]
      cases hvalue : sample.value? with
      | none =>
          rw [signal?_answer_of_none hvalue]
          rfl
      | some value =>
          rw [signal?_answer hvalue]
          dsimp only
          cases hweigh : c.weigh sample.time value with
          | error f =>
              rw [attempt, hweigh]
              rfl
          | ok c' =>
              rw [attempt_of_weigh hweigh]
              obtain ⟨w, term, -, rfl⟩ := of_weigh_eq_ok hweigh
              rfl
  | setpoint setpoint =>
      rw [after, answer]
      cases h : c.setSetpoint setpoint with
      | error e => rfl
      | ok c' =>
          obtain ⟨moved, -, h⟩ := Outcome.of_bind_eq_ok h
          cases h
          show (if moved.2 && c.settings.resetsOnSetpoint then _ else _ : Pid ν).lastOutput = _
          split <;> rfl
  | _ =>
      obtain ⟨settings, hsettings⟩ :=
        c.exists_settings_after call (by simp [hcall]) (by simp [hcall])
      rw [← hcall, hsettings, hcall]
      simp [answer]

theorem lastOutput_run {c : Pid ν} (h : c.lastOutput = none) (calls : List (PidCall ν)) :
    (c.run calls).lastOutput = (c.signals calls).getLast? := by
  induction calls using List.reverseRecOn with
  | nil => exact h
  | append_singleton calls call ih =>
      rw [run_concat, signals_concat, lastOutput_after, ih, List.getLast?_append]
      cases ((c.run calls).answer call).signal? <;> rfl

end Pid

namespace Hysteresis

/-- The controller after a call. -/
def after (c : Hysteresis ν) : SetpointCall ν → Hysteresis ν
  | .sample sample => (c.compute sample).1
  | .setpoint setpoint => (c.setSetpoint setpoint).toOption.getD c

/-- What the controller answers to a call. -/
def answer (c : Hysteresis ν) :
    SetpointCall ν → Answer ν (ControlError ν) (HysteresisStatus ν)
  | .sample sample => .said (c.compute sample).2
  | .setpoint setpoint => .ofSetting (c.setSetpoint setpoint)

end Hysteresis

namespace Thermostat

/-- The thermostat after a call, as it is left even by a fault. -/
def after (t : Thermostat ν) : SetpointCall ν → Thermostat ν
  | .sample sample => (t.attemptSample sample).1
  | .setpoint setpoint => (t.setSetpoint setpoint).toOption.getD t

/-- What the thermostat answers to a call. -/
def answer (t : Thermostat ν) : SetpointCall ν → Answer ν (ZoneError ν) (CallingStatus ν)
  | .sample sample => .ofSample (t.compute sample)
  | .setpoint setpoint => .ofSetting (t.setSetpoint setpoint)

end Thermostat

/-! ## Failed samples -/

/-- A sample without a value. -/
structure FailedSample where
  /-- When it was taken. -/
  time : Instant
  /-- What it is attributed to. -/
  source : Option String
  /-- Why there is no value. -/
  error : SignalError

/-- The signal that it is, and the one that it is passed on as. -/
def FailedSample.signal {α : Type} (f : FailedSample) : Signal α := .failure f.time f.source f.error

section Failures

variable {σ κ : Type}

/-- Failed samples and calls, as calls. -/
def withFailures (sample : Signal ν → κ) (calls : List (FailedSample ⊕ κ)) : List κ :=
  calls.map (Sum.elim (fun f => sample f.signal) id)

/-- The calls alone. -/
def withoutFailures (calls : List (FailedSample ⊕ κ)) : List κ := calls.filterMap Sum.getRight?

/-- The answers to failed samples and calls, when each failure is passed on and the answers to the
calls are given. -/
def weave : List (FailedSample ⊕ κ) → List (Answer ν ε δ) → List (Answer ν ε δ)
  | .inl f :: calls, answers => .said f.signal :: weave calls answers
  | .inr _ :: calls, answer :: answers => answer :: weave calls answers
  | _, _ => []

variable (sample : Signal ν → κ) (after : σ → κ → σ) (answer : σ → κ → Answer ν ε δ)

omit [Scalar ν] in
/-- A failed sample changes nothing and is answered by itself. -/
structure PassesOn : Prop where
  after_failed : ∀ c (f : FailedSample), after c (sample f.signal) = c
  answer_failed : ∀ c (f : FailedSample), answer c (sample f.signal) = .said f.signal

omit [Scalar ν] in
/-- Failed samples in between make no difference: the state at the end is the one without them, and
the answers are those without them and, in its place, each failure passed on. -/
structure LeavesNoTrace (c : σ) (calls : List (FailedSample ⊕ κ)) : Prop where
  state : (withFailures sample calls).foldl after c = (withoutFailures calls).foldl after c
  answers : observed after answer c (withFailures sample calls) =
    weave calls (observed after answer c (withoutFailures calls))

variable {sample after answer}

omit [Scalar ν] in
theorem PassesOn.leavesNoTrace (h : PassesOn sample after answer) (c : σ)
    (calls : List (FailedSample ⊕ κ)) : LeavesNoTrace sample after answer c calls := by
  induction calls generalizing c with
  | nil => exact ⟨rfl, rfl⟩
  | cons call calls ih =>
      cases call with
      | inl f =>
          obtain ⟨hstate, hanswers⟩ := ih c
          constructor
          case state =>
            show (withFailures sample calls).foldl after (after c (sample f.signal)) =
              (withoutFailures calls).foldl after c
            rw [h.after_failed, hstate]
          case answers =>
            show answer c (sample f.signal) ::
                observed after answer (after c (sample f.signal)) (withFailures sample calls) =
              .said f.signal :: weave calls (observed after answer c (withoutFailures calls))
            rw [h.after_failed, h.answer_failed, hanswers]
      | inr call =>
          obtain ⟨hstate, hanswers⟩ := ih (after c call)
          exact ⟨hstate, congrArg (answer c call :: ·) hanswers⟩

end Failures

theorem passesOn_pid :
    PassesOn (ν := ν) PidCall.sample Pid.after Pid.answer :=
  ⟨fun _ _ => rfl, fun _ _ => rfl⟩

theorem passesOn_hysteresis :
    PassesOn (ν := ν) SetpointCall.sample Hysteresis.after Hysteresis.answer :=
  ⟨fun _ _ => rfl, fun _ _ => rfl⟩

theorem passesOn_thermostat :
    PassesOn (ν := ν) SetpointCall.sample Thermostat.after Thermostat.answer :=
  ⟨fun _ _ => rfl, fun _ _ => rfl⟩

/-- Whatever state a controller or a thermostat is in, and whatever is done to it, failed samples in
between leave no trace: none in the answers to the rest, and none in what it is at the end. -/
theorem failures_leave_no_trace :
    (∀ (c : Pid ν) (calls : List (FailedSample ⊕ PidCall ν)),
        LeavesNoTrace PidCall.sample Pid.after Pid.answer c calls) ∧
      (∀ (c : Hysteresis ν) (calls : List (FailedSample ⊕ SetpointCall ν)),
        LeavesNoTrace SetpointCall.sample Hysteresis.after Hysteresis.answer c calls) ∧
      ∀ (t : Thermostat ν) (calls : List (FailedSample ⊕ SetpointCall ν)),
        LeavesNoTrace SetpointCall.sample Thermostat.after Thermostat.answer t calls :=
  ⟨passesOn_pid.leavesNoTrace, passesOn_hysteresis.leavesNoTrace,
    passesOn_thermostat.leavesNoTrace⟩

end HomeClimate
