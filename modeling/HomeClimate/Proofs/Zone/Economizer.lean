import HomeClimate.Proofs.Outcome
import HomeClimate.Zone.Economizer

/-!
# What an economizer does at a reading

Most of what is done to an economizer decides nothing.  It *coasts*: its
controller and the time of its last decision stay, and no command is given once
it was shut down.  Changed settings, a lost reading and a device that is turned
off are all of that kind.

* `Coasts`: nothing was decided between two states.
* `update_cases`: a reading is one of two things.  The economizer coasts, or it
  coasts and then judges a signal that is newer than its last decision.
* `judge_…`: what a judgement does to each part.
-/

namespace HomeClimate

variable {ν : Type}

namespace Economizer

/-! ## Coasting -/

/-- Nothing was decided between two states of an economizer. -/
structure Coasts (e e' : Economizer ν) : Prop where
  controller : e'.controller = e.controller
  lastComputed : e'.lastComputed = e.lastComputed
  isClosed : e'.isClosed = e.isClosed
  issued : e.isClosed = true → e'.issued = e.issued

theorem Coasts.refl (e : Economizer ν) : e.Coasts e := ⟨rfl, rfl, rfl, fun _ => rfl⟩

theorem Coasts.trans {e e₁ e₂ : Economizer ν} (h : e.Coasts e₁) (h' : e₁.Coasts e₂) :
    e.Coasts e₂ where
  controller := h'.controller.trans h.controller
  lastComputed := h'.lastComputed.trans h.lastComputed
  isClosed := h'.isClosed.trans h.isClosed
  issued := fun hc => (h'.issued (h.isClosed.trans hc)).trans (h.issued hc)

variable [Scalar ν]

/-- A device is told what it is to be, but not after the end. -/
theorem coasts_drive (e : Economizer ν) (on : Bool) : e.Coasts (e.drive on) := by
  rw [drive]
  by_cases h : (e.isClosed || e.actuator == some on) = true
  · rw [if_pos h]
    exact .refl e
  · rw [if_neg h]
    refine ⟨rfl, rfl, rfl, fun hc => ?_⟩
    rw [hc] at h
    exact absurd rfl h

theorem coasts_disable (e : Economizer ν) : e.Coasts e.disable := by
  have hstatus : e.Coasts
      { e with status := { e.status with demand := 0, calling := false, sample := none } } :=
    ⟨rfl, rfl, rfl, fun _ => rfl⟩
  exact hstatus.trans (coasts_drive _ false)

theorem coasts_setSettings {e e' : Economizer ν} {s : EconomizerSettings ν}
    (h : e.setSettings s = .ok e') : e.Coasts e' := by
  obtain ⟨_, -, h⟩ := Outcome.of_bind_eq_ok h
  have hset : e.Coasts { e with settings := s, status := { e.status with settings := some s } } :=
    ⟨rfl, rfl, rfl, fun _ => rfl⟩
  rw [← Except.ok.inj h]
  by_cases hs : s.isEnabled = true
  · rw [if_pos hs]
    exact hset
  · rw [if_neg hs]
    exact hset.trans (coasts_disable _)

/-- To combine two readings is to keep them or to forget them. -/
theorem coasts_combine (e : Economizer ν) (now : Instant) : e.Coasts (e.combine now).1 := by
  unfold combine
  split
  · split
    · exact .refl e
    · split
      · exact ⟨rfl, rfl, rfl, fun _ => rfl⟩
      · split
        · exact .refl e
        · exact .refl e
  · exact .refl e

/-! ## Judging -/

theorem judge_controller (e : Economizer ν) (time : Instant) (signal : ν) :
    (e.judge time signal).1.controller = (e.controller.attempt time signal).1 := by
  rw [judge]
  cases e.controller.attempt time signal with
  | mk controller answer =>
      cases answer with
      | error f => rfl
      | ok pid => exact (coasts_drive _ _).controller

theorem judge_lastComputed (e : Economizer ν) (time : Instant) (signal : ν) :
    (e.judge time signal).1.lastComputed = some time := by
  rw [judge]
  cases e.controller.attempt time signal with
  | mk controller answer =>
      cases answer with
      | error f => rfl
      | ok pid => exact (coasts_drive _ _).lastComputed

theorem judge_isClosed (e : Economizer ν) (time : Instant) (signal : ν) :
    (e.judge time signal).1.isClosed = e.isClosed := by
  rw [judge]
  cases e.controller.attempt time signal with
  | mk controller answer =>
      cases answer with
      | error f => rfl
      | ok pid => exact (coasts_drive _ _).isClosed

theorem judge_issued {e : Economizer ν} (time : Instant) (signal : ν) (h : e.isClosed = true) :
    (e.judge time signal).1.issued = e.issued := by
  rw [judge]
  cases e.controller.attempt time signal with
  | mk controller answer =>
      cases answer with
      | error f => rfl
      | ok pid => exact (coasts_drive _ _).issued h

/-- A judgement fails only where its controller does. -/
theorem judge_error {e : Economizer ν} {time : Instant} {signal : ν} {f : Fault ν}
    (h : (e.judge time signal).2 = .error f) :
    (e.controller.attempt time signal).2 = .error f := by
  rw [judge] at h
  cases ha : e.controller.attempt time signal with
  | mk controller answer =>
      rw [ha] at h
      cases answer with
      | error f' =>
          cases h
          rfl
      | ok pid => cases h

/-! ## Readings -/

/-- What a reading does: the economizer coasts, or it judges a signal that is newer than its last
decision. -/
theorem update_cases (e : Economizer ν) (now : Instant) :
    (e.Coasts (e.update now).1 ∧ ∃ s, (e.update now).2 = .ok s) ∨
      ∃ e₁ time signal, e.Coasts e₁ ∧ e₁.isDecided time = false ∧
        (e.update now).1 = (e₁.judge time signal).1 ∧
        ∀ f, (e.update now).2 = .error f → (e₁.judge time signal).2 = .error f := by
  rw [update]
  by_cases hs : e.settings.isEnabled = true
  · rw [if_pos hs]
    have hcombine := coasts_combine e now
    cases hc : e.combine now with
    | mk e₁ combined =>
        rw [hc] at hcombine
        dsimp only
        cases hv : combined.value? with
        | none => exact .inl ⟨hcombine.trans (coasts_drive e₁ false), combined, rfl⟩
        | some signal =>
            dsimp only
            by_cases hd : e₁.isDecided combined.time = true
            · rw [if_pos hd]
              exact .inl ⟨hcombine, combined, rfl⟩
            · rw [if_neg hd]
              refine .inr ⟨e₁, combined.time, signal, hcombine, by simpa using hd, rfl, ?_⟩
              intro f hf
              dsimp only at hf
              cases hj : (e₁.judge combined.time signal).2 with
              | error f' =>
                  rw [hj] at hf
                  cases hf
                  rfl
              | ok _ =>
                  rw [hj] at hf
                  cases hf
  · rw [if_neg hs]
    exact .inl ⟨coasts_disable e, _, rfl⟩

theorem update_isClosed (e : Economizer ν) (now : Instant) :
    (e.update now).1.isClosed = e.isClosed := by
  rcases update_cases e now with ⟨h, _⟩ | ⟨e₁, time, signal, h, -, hjudge, -⟩
  · exact h.isClosed
  · rw [hjudge, judge_isClosed]
    exact h.isClosed

/-- No reading makes an economizer give a command after its end. -/
theorem update_issued {e : Economizer ν} (now : Instant) (hc : e.isClosed = true) :
    (e.update now).1.issued = e.issued := by
  rcases update_cases e now with ⟨h, _⟩ | ⟨e₁, time, signal, h, -, hjudge, -⟩
  · exact h.issued hc
  · rw [hjudge, judge_issued time signal (h.isClosed.trans hc)]
    exact h.issued hc

/-! ## Settings -/

/-- Settings are taken if they are right, and then all of them. -/
theorem setSettings_of_check {s : EconomizerSettings ν} (e : Economizer ν) (h : s.check = .ok ()) :
    ∃ e', e.setSettings s = .ok e' := by
  simp [setSettings, checkEconomizerSettings, h, bind, Except.bind, pure, Except.pure]

@[simp] theorem drive_settings (e : Economizer ν) (on : Bool) :
    (e.drive on).settings = e.settings := by
  rw [drive]
  split <;> rfl

@[simp] theorem disable_settings (e : Economizer ν) : e.disable.settings = e.settings := by
  simp [disable]

theorem setSettings_settings {e e' : Economizer ν} {s : EconomizerSettings ν}
    (h : e.setSettings s = .ok e') : s.check = .ok () ∧ e'.settings = s := by
  obtain ⟨_, hcheck, h⟩ := Outcome.of_bind_eq_ok h
  refine ⟨?_, ?_⟩
  · cases hs : s.check with
    | error f => simp [checkEconomizerSettings, hs] at hcheck
    | ok _ => rfl
  · rw [← Except.ok.inj h]
    split <;> simp

@[simp] theorem combine_settings (e : Economizer ν) (now : Instant) :
    (e.combine now).1.settings = e.settings := by
  unfold combine
  repeat' split
  all_goals rfl

@[simp] theorem judge_settings (e : Economizer ν) (time : Instant) (signal : ν) :
    (e.judge time signal).1.settings = e.settings := by
  rw [judge]
  cases e.controller.attempt time signal with
  | mk controller answer => cases answer <;> simp

/-- Only new settings change the settings. -/
@[simp] theorem update_settings (e : Economizer ν) (now : Instant) :
    (e.update now).1.settings = e.settings := by
  rw [update]
  split
  · have hcombine := combine_settings e now
    cases hc : e.combine now with
    | mk e₁ combined =>
        rw [hc] at hcombine
        dsimp only
        split
        · simpa using hcombine
        · split
          · exact hcombine
          · simpa using hcombine
  · simp

@[simp] theorem close_settings (e : Economizer ν) : e.close.settings = e.settings := by
  rw [close]
  split <;> rfl

/-! ## The end -/

@[simp] theorem close_isClosed (e : Economizer ν) : e.close.isClosed = true := by
  rw [close]
  by_cases h : e.isClosed = true
  · rw [if_pos h]
    exact h
  · rw [if_neg h]
    rfl

/-- An economizer that was shut down stays as it is. -/
theorem close_of_isClosed {e : Economizer ν} (h : e.isClosed = true) : e.close = e := if_pos h

end Economizer

end HomeClimate
