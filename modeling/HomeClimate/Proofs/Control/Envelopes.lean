import HomeClimate.Proofs.Signal.Envelope
import HomeClimate.Zone.Thermostat

/-!
# Controllers and thermostats on envelopes

A controller asks an envelope whether it has failed.  If it has, it is passed on; if not, its
value is taken, and there had better be one.  On envelopes this is a place that code can get
to: `Stop.unreachable` is what a controller answers there.

No controller and no thermostat answers that to a well-formed envelope, whatever state it is
in, and what it gives is well formed again (`isSound_pid`, `isSound_hysteresis`,
`isSound_thermostat`).

With the envelope of a signal each does what it does with the signal itself
(`Pid.compute_carrying` and its like).
-/

namespace HomeClimate

variable {α β ν π : Type}

/-! ## Answers -/

/-- Why a part stops where it is. -/
inductive Stop (ν : Type) where
  /-- There is a fault. -/
  | fault (fault : Fault ν)
  /-- An envelope that has not failed has no value. -/
  | unreachable

/-- An answer is a well-formed envelope, or there is a fault. -/
def IsSound : Except (Stop ν) (Envelope α π) → Prop
  | .ok e => e.IsWellFormed
  | .error (.fault _) => True
  | .error .unreachable => False

/-- Whoever stops because another part has stopped is sound if the other one is. -/
theorem IsSound.passedOn {ρ : Type} {stop : Stop ν}
    (h : IsSound (.error stop : Except (Stop ν) (Envelope α π))) :
    IsSound (.error stop : Except (Stop ν) (Envelope β ρ)) := by
  cases stop with
  | fault f => trivial
  | unreachable => exact h

/-- What was done to a part: the part as it is left, and its answer or why it stopped. -/
abbrev Trial (ν σ α : Type) := σ × Except (Stop ν) α

/-- The part and its answer, or why it stopped alone. -/
def Trial.complete {σ : Type} (a : Trial ν σ α) : Except (Stop ν) (σ × α) :=
  a.2.map fun x => (a.1, x)

/-- An attempt as a trial, with the part seen as another and the answer as another. -/
def Attempt.enclosed {σ τ : Type} (f : σ → τ) (g : α → β) (a : Attempt ν σ α) : Trial ν τ β :=
  (f a.1, (a.2.mapError Stop.fault).map g)

@[simp] theorem Attempt.enclosed_ok {σ τ : Type} (f : σ → τ) (g : α → β) (c : σ) (answer : α) :
    (enclosed f g (c, .ok answer) : Trial ν τ β) = (f c, .ok (g answer)) := rfl

namespace Envelopes

/-! ## Controllers -/

/-- What a part does that takes the value of an envelope, if it has not failed. -/
def consult {σ : Type} (c : σ) (act : Instant → α → Attempt ν σ β) (e : Envelope α π) :
    Trial ν σ (Envelope β π) :=
  match e.intoFailure with
  | .ok failed => (c, .ok failed)
  | .error e =>
    match e.value? with
    | none => (c, .error .unreachable)
    | some value => (act e.time value).enclosed id e.withValue

variable [Scalar ν]

/-- A controller after an envelope, and what it says. -/
def pid (c : Pid ν) (e : Envelope ν π) : Trial ν (Pid ν) (Envelope (PidStatus ν) π) :=
  consult c c.attempt e

/-- A hysteresis controller after an envelope, and what it says. -/
def hysteresis (c : Hysteresis ν) (e : Envelope ν π) :
    Trial ν (Hysteresis ν) (Envelope (HysteresisStatus ν) π) :=
  consult c (fun time value => ((c.step time value).1, .ok (c.step time value).2)) e

/-- A thermostat after an envelope, and its verdict. -/
def thermostat (t : Thermostat ν) (e : Envelope ν π) :
    Trial ν (Thermostat ν) (Envelope (CallingStatus ν) π) :=
  match pid t.controller e with
  | (controller, .error stop) => ({ t with controller }, .error stop)
  | (controller, .ok answer) =>
    let t := { t with controller }
    match answer.intoFailure with
    | .ok failed => (t, .ok failed)
    | .error answer =>
      match answer.value? with
      | none => (t, .error .unreachable)
      | some status =>
        match hysteresis t.renderer (answer.map ControlStatus.signal) with
        | (renderer, .error stop) => ({ t with renderer }, .error stop)
        | (renderer, .ok rendered) =>
          let t := { t with renderer }
          match rendered.value? with
          | none => (t, .error .unreachable)
          | some shown =>
            ({ t with lastStatus := some status },
              .ok (rendered.withValue (t.verdict shown status.signal)))

end Envelopes

/-! ## What controllers do with signals -/

theorem isSound_enclosed {σ : Type} (a : Attempt ν σ (Signal α)) (payload? : Option π) :
    IsSound (a.enclosed id (·.carrying payload?)).2 := by
  obtain ⟨c, answer⟩ := a
  cases answer with
  | error f => trivial
  | ok s => exact s.isWellFormed_carrying payload?

namespace Envelopes

section Consult

variable {σ : Type} (c : σ) (act : Instant → α → Attempt ν σ β) (s : Signal α)
  (payload? : Option π)

/-- Where there is no value nothing is done. -/
theorem consult_none (f : α → β) (h : s.value? = none) :
    consult c act (s.carrying payload?) = (c, .ok ((s.map f).carrying payload?)) := by
  rw [consult, s.intoFailure_carrying_of_none payload? f h]

/-- Where there is a value something is done with it, and the answer is in the same envelope. -/
theorem consult_value {value : α} (h : s.value? = some value) :
    consult c act (s.carrying payload?) =
      (act s.time value).enclosed id fun b => (s.withValue b).carrying payload? := by
  have hanswer : (s.carrying payload?).withValue = fun b => (s.withValue b).carrying payload? :=
    funext fun b : β => (s.carrying_withValue payload? b).symm
  rw [← hanswer]
  rw [consult, s.intoFailure_carrying payload? h]
  dsimp only
  rw [s.value?_carrying, h]
  rfl

end Consult

/-- A hysteresis controller gets a value in the envelope of a signal that has one. -/
theorem hysteresis_withValue [Scalar ν] (c : Hysteresis ν) {s : Signal α} {value : α}
    (h : s.value? = some value) (payload? : Option π) (x : ν) :
    hysteresis c ((s.withValue x).carrying payload?) =
      ((c.step s.time x).1, .ok ((s.withValue (c.step s.time x).2).carrying payload?)) := by
  rw [hysteresis, consult_value (h := Signal.value?_withValue h x)]
  simp only [Signal.withValue_withValue]
  rfl

end Envelopes

variable [Scalar ν]

theorem Pid.compute_carrying (c : Pid ν) (s : Signal ν) (payload? : Option π) :
    (Envelopes.pid c (s.carrying payload?)).complete =
      ((c.compute s).mapError Stop.fault).map fun r => (r.1, r.2.carrying payload?) := by
  obtain ⟨time, source, health⟩ := s
  cases health with
  | totalFailure error => rfl
  | ok v =>
      rw [Envelopes.pid, Envelopes.consult_value (h := rfl)]
      simp only [compute, step]
      cases c.attempt time v with
      | mk c' answer => cases answer <;> rfl
  | partialFailure v error =>
      rw [Envelopes.pid, Envelopes.consult_value (h := rfl)]
      simp only [compute, step]
      cases c.attempt time v with
      | mk c' answer => cases answer <;> rfl

theorem Hysteresis.compute_carrying (c : Hysteresis ν) (s : Signal ν) (payload? : Option π) :
    Envelopes.hysteresis c (s.carrying payload?) =
      ((c.compute s).1, .ok ((c.compute s).2.carrying payload?)) := by
  obtain ⟨time, source, health⟩ := s
  cases health with
  | totalFailure error => rfl
  | ok v => rw [Envelopes.hysteresis, Envelopes.consult_value (h := rfl)]; rfl
  | partialFailure v error => rw [Envelopes.hysteresis, Envelopes.consult_value (h := rfl)]; rfl

theorem Thermostat.attemptSample_carrying (t : Thermostat ν) (s : Signal ν)
    (payload? : Option π) :
    Envelopes.thermostat t (s.carrying payload?) =
      (t.attemptSample s).enclosed id (·.carrying payload?) := by
  simp only [Envelopes.thermostat, Envelopes.pid, attemptSample]
  cases hvalue : s.value? with
  | none =>
      let asStatus (v : ν) : PidStatus ν := ⟨v, v, v, ⟨v, v, v⟩⟩
      have hstatus : (s.map asStatus).value? = none :=
        (Health.value?_map asStatus s.health).trans (congrArg (Option.map _) hvalue)
      rw [Envelopes.consult_none _ _ _ _ asStatus hvalue]
      dsimp only
      rw [Signal.intoFailure_carrying_of_none _ _ (fun _ => CallingStatus.idle) hstatus,
        Signal.map_map]
      rfl
  | some v =>
      rw [Envelopes.consult_value _ _ _ _ hvalue]
      simp only [attempt]
      cases t.controller.attempt s.time v with
      | mk controller answer =>
          cases answer with
          | error f => rfl
          | ok status =>
              have hstatus := Signal.value?_withValue hvalue status
              have hshown := Signal.value?_withValue hvalue (t.renderer.step s.time status.signal).2
              simp only [Attempt.enclosed_ok, Except.map, id]
              rw [Signal.intoFailure_carrying _ _ hstatus]
              simp only [Signal.value?_carrying, hstatus]
              rw [Signal.map_carrying_withValue, Envelopes.hysteresis_withValue _ hvalue]
              simp only [Signal.value?_carrying, ← Signal.carrying_withValue,
                Signal.withValue_withValue, hshown]
              rfl

/-! ## Soundness -/

namespace Envelopes

omit [Scalar ν] in
/-- Whatever a part does with a value, its answer to a well-formed envelope is sound. -/
theorem isSound_consult {σ : Type} (c : σ) (act : Instant → α → Attempt ν σ β)
    {e : Envelope α π} (he : e.IsWellFormed) : IsSound (consult c act e).2 := by
  rw [consult]
  cases hinto : (e.intoFailure : Except _ (Envelope β π)) with
  | ok failed => exact he.intoFailure hinto
  | error e' =>
      obtain ⟨rfl, hfailed⟩ := Envelope.eq_of_intoFailure hinto
      obtain ⟨value, hvalue⟩ := he.exists_value hfailed
      simp only [hvalue]
      cases act e'.time value with
      | mk c' answer =>
          cases answer with
          | error f => trivial
          | ok b => exact he.withValue b

theorem isSound_pid (c : Pid ν) {e : Envelope ν π} (he : e.IsWellFormed) : IsSound (pid c e).2 :=
  isSound_consult c c.attempt he

theorem isSound_hysteresis (c : Hysteresis ν) {e : Envelope ν π} (he : e.IsWellFormed) :
    IsSound (hysteresis c e).2 :=
  isSound_consult c _ he

theorem isSound_thermostat (t : Thermostat ν) {e : Envelope ν π} (he : e.IsWellFormed) :
    IsSound (thermostat t e).2 := by
  obtain ⟨s, heq⟩ := Signal.exists_carrying he
  rw [heq, Thermostat.attemptSample_carrying]
  exact isSound_enclosed _ _

end Envelopes

end HomeClimate
