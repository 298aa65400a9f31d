import HomeClimate.Proofs.Time.Elapsed
import HomeClimate.Proofs.Zone.Economizer

/-!
# What is done to an economizer

An economizer gets readings, at whatever times a clock may show, settings, statuses to
suppress, and at some point it is shut down.  Each of these calls is an *occasion*
(`Economizer.occasion`) of one of four kinds, and what it does to the device and to the
status follows from its kind.

* `off`: the settings do not want outside air.  Nothing is asked for, and the device goes
  off.
* `withdrawal`: the readings do not make a pair, or the end has come.  The device goes off,
  and the status is left alone.
* `decision`: the controllers have decided.  The status says so, and the device follows.
* `nothing`: all stays as it is.  A controller that faults leaves it so too.

Two readings make a pair (`Economizer.Paired`) when neither has failed and neither is before
the limit of the timeout.  What a device answers changes nothing, so it is not among the
calls.
-/

namespace HomeClimate

variable {ν : Type} [Scalar ν]

/-- What can be done to an economizer. -/
inductive EconomizerCall (ν : Type) where
  /-- It gets a reading inside while the clock shows a time. -/
  | indoor (now : Instant) (reading : Signal ν)
  /-- It gets a reading outside while the clock shows a time. -/
  | ambient (now : Instant) (reading : Signal ν)
  /-- It is to have other settings. -/
  | settings (settings : EconomizerSettings ν)
  /-- It is shown the status of its zone. -/
  | suppress (status : Signal (ZoneStatus ν))
  /-- It is shut down. -/
  | close

namespace EconomizerCall

omit [Scalar ν]

/-- The reading inside, if the call brings one. -/
def indoor? : EconomizerCall ν → Option (Signal ν)
  | .indoor _ reading => some reading
  | _ => none

/-- The reading outside, if the call brings one. -/
def ambient? : EconomizerCall ν → Option (Signal ν)
  | .ambient _ reading => some reading
  | _ => none

/-- What the clock shows, if the call brings a reading. -/
def now? : EconomizerCall ν → Option Instant
  | .indoor now _ => some now
  | .ambient now _ => some now
  | _ => none

/-- The last reading inside that some calls brought. -/
def lastIndoor? (calls : List (EconomizerCall ν)) : Option (Signal ν) :=
  (calls.filterMap indoor?).getLast?

/-- The last reading outside that some calls brought. -/
def lastAmbient? (calls : List (EconomizerCall ν)) : Option (Signal ν) :=
  (calls.filterMap ambient?).getLast?

theorem lastIndoor?_concat (calls : List (EconomizerCall ν)) (call : EconomizerCall ν) :
    lastIndoor? (calls ++ [call]) = call.indoor?.or (lastIndoor? calls) := by
  rw [lastIndoor?, List.filterMap_append]
  cases h : call.indoor? <;> simp [h, lastIndoor?]

theorem lastAmbient?_concat (calls : List (EconomizerCall ν)) (call : EconomizerCall ν) :
    lastAmbient? (calls ++ [call]) = call.ambient?.or (lastAmbient? calls) := by
  rw [lastAmbient?, List.filterMap_append]
  cases h : call.ambient? <;> simp [h, lastAmbient?]

end EconomizerCall

/-- What a call is an occasion for. -/
inductive Occasion where
  | off
  | withdrawal
  | decision
  | nothing
  deriving DecidableEq

namespace Economizer

/-! ## Pairs of readings -/

/-- The readings of an economizer are these, neither has failed, and neither is too old. -/
structure Paired (e : Economizer ν) (now : Instant) (indoor ambient : Signal ν) : Prop where
  inside : e.indoor = some indoor
  outside : e.ambient = some ambient
  insideHolds : indoor.isFailed = false
  outsideHolds : ambient.isFailed = false
  insideWithin : indoor.time.IsWithin e.timeout now
  outsideWithin : ambient.time.IsWithin e.timeout now

omit [Scalar ν] in
theorem failureOf_eq_none {indoor ambient : Signal ν} (h : failureOf indoor ambient = none) :
    indoor.isFailed = false ∧ ambient.isFailed = false := by
  obtain ⟨time, source, health⟩ := indoor
  obtain ⟨time', source', health'⟩ := ambient
  cases health with
  | totalFailure error => cases h
  | ok v => cases health' <;> first | exact ⟨rfl, rfl⟩ | cases h
  | partialFailure v error => cases health' <;> first | exact ⟨rfl, rfl⟩ | cases h

omit [Scalar ν] in
theorem isWithin_of_not_isStale {e : Economizer ν} {now : Instant} {reading : Signal ν}
    (h : e.isStale now reading = false) : reading.time.IsWithin e.timeout now := by
  intro limit hlimit
  rw [isStale, hlimit] at h
  exact Instant.not_lt.mp (by simpa using h)

/-- Two readings are combined if they make a pair.  If not, both may be forgotten. -/
theorem combine_cases (e : Economizer ν) (now : Instant) :
    ((e.combine now).2.value? = none ∧
        ((e.combine now).1 = e ∨ (e.combine now).1 = { e with indoor := none, ambient := none })) ∨
      ((e.combine now).1 = e ∧ ∃ indoor ambient, e.Paired now indoor ambient) := by
  rw [combine]
  cases hi : e.indoor with
  | none => exact .inl ⟨rfl, .inl rfl⟩
  | some indoor =>
      cases ha : e.ambient with
      | none => exact .inl ⟨rfl, .inl rfl⟩
      | some ambient =>
          dsimp only
          cases hf : failureOf indoor ambient with
          | some error => exact .inl ⟨rfl, .inl rfl⟩
          | none =>
              obtain ⟨hindoor, hambient⟩ := failureOf_eq_none hf
              by_cases hs : (e.isStale now indoor || e.isStale now ambient) = true
              · rw [if_pos hs]
                exact .inl ⟨rfl, .inr rfl⟩
              · simp only [if_neg hs]
                obtain ⟨hi', ha'⟩ := Bool.or_eq_false_iff.mp (Bool.eq_false_iff.mpr hs)
                refine .inr ⟨?_, indoor, ambient, hi, ha, hindoor, hambient,
                  isWithin_of_not_isStale hi', isWithin_of_not_isStale ha'⟩
                split <;> rfl

@[simp] theorem drive_indoor (e : Economizer ν) (on : Bool) : (e.drive on).indoor = e.indoor := by
  rw [drive]
  split <;> rfl

@[simp] theorem drive_ambient (e : Economizer ν) (on : Bool) :
    (e.drive on).ambient = e.ambient := by
  rw [drive]
  split <;> rfl

@[simp] theorem drive_mode (e : Economizer ν) (on : Bool) : (e.drive on).mode = e.mode := by
  rw [drive]
  split <;> rfl

@[simp] theorem drive_timeout (e : Economizer ν) (on : Bool) :
    (e.drive on).timeout = e.timeout := by
  rw [drive]
  split <;> rfl

/-! ## Occasions -/

/-- What a reading that was noted is an occasion for. -/
def occasionAt (e : Economizer ν) (now : Instant) : Occasion :=
  if e.settings.isEnabled then
    match (e.combine now).2.value? with
    | none => .withdrawal
    | some signal =>
      if e.isDecided (e.combine now).2.time then .nothing
      else if (e.controller.attempt (e.combine now).2.time signal).2.isOk then .decision
      else .nothing
  else .off

/-- What a call is an occasion for. -/
def occasion (e : Economizer ν) : EconomizerCall ν → Occasion
  | .indoor now reading => { e with indoor := some (reading.attributed none) }.occasionAt now
  | .ambient now reading => { e with ambient := some reading }.occasionAt now
  | .settings s => if s.check.isOk && !s.isEnabled then .off else .nothing
  | .suppress _ => .nothing
  | .close => .withdrawal

/-- The economizer after a call.  Settings that are refused change nothing. -/
def after (e : Economizer ν) : EconomizerCall ν → Economizer ν
  | .indoor now reading => (e.recordIndoor now reading).1
  | .ambient now reading => (e.recordAmbient now reading).1
  | .settings s => (e.setSettings s).toOption.getD e
  | .suppress _ => e
  | .close => e.close

/-- The economizer after some calls. -/
def run (e : Economizer ν) (calls : List (EconomizerCall ν)) : Economizer ν := calls.foldl after e

@[simp] theorem run_nil (e : Economizer ν) : e.run [] = e := rfl

@[simp] theorem run_cons (e : Economizer ν) (call : EconomizerCall ν)
    (calls : List (EconomizerCall ν)) : e.run (call :: calls) = (e.after call).run calls := rfl

@[simp] theorem run_append (e : Economizer ν) (calls more : List (EconomizerCall ν)) :
    e.run (calls ++ more) = (e.run calls).run more :=
  List.foldl_append

/-! ## What an occasion does -/

/-- Two states of an economizer differ neither in how it was set up nor in what its device was
told. -/
structure SameDevice (e e₁ : Economizer ν) : Prop where
  actuator : e₁.actuator = e.actuator
  issued : e₁.issued = e.issued
  mode : e₁.mode = e.mode
  timeout : e₁.timeout = e.timeout
  isClosed : e₁.isClosed = e.isClosed

/-- Besides, the statuses of the two states ask for the same. -/
structure Agrees (e e₁ : Economizer ν) : Prop extends SameDevice e e₁ where
  calling : e₁.status.calling = e.status.calling
  demand : e₁.status.demand = e.status.demand

omit [Scalar ν] in
theorem Agrees.refl (e : Economizer ν) : e.Agrees e := ⟨⟨rfl, rfl, rfl, rfl, rfl⟩, rfl, rfl⟩

omit [Scalar ν] in
theorem SameDevice.trans {e e₁ e₂ : Economizer ν} (h : e.SameDevice e₁) (h' : e₁.SameDevice e₂) :
    e.SameDevice e₂ where
  actuator := h'.actuator.trans h.actuator
  issued := h'.issued.trans h.issued
  mode := h'.mode.trans h.mode
  timeout := h'.timeout.trans h.timeout
  isClosed := h'.isClosed.trans h.isClosed

omit [Scalar ν] in
theorem Agrees.trans {e e₁ e₂ : Economizer ν} (h : e.Agrees e₁) (h' : e₁.Agrees e₂) :
    e.Agrees e₂ where
  toSameDevice := h.toSameDevice.trans h'.toSameDevice
  calling := h'.calling.trans h.calling
  demand := h'.demand.trans h.demand

/-- What an occasion makes of an economizer, as far as its device and its zone are told. -/
inductive Becomes (e : Economizer ν) : Occasion → Economizer ν → Prop where
  | off {e₁ : Economizer ν} :
      e.SameDevice e₁ → e₁.settings.isEnabled = false → Becomes e .off e₁.disable
  | withdrawal {e₁ : Economizer ν} :
      e.Agrees e₁ → e₁.settings = e.settings → Becomes e .withdrawal (e₁.drive false)
  | decision {e₁ : Economizer ν} :
      e.SameDevice e₁ → e₁.settings.isEnabled = true →
      Becomes e .decision (e₁.drive e₁.status.calling)
  | nothing {e₁ : Economizer ν} :
      e.Agrees e₁ → (e₁.settings.isEnabled = true ∨ e₁.settings = e.settings) →
      Becomes e .nothing e₁

/-- To note something before the occasion is no matter. -/
theorem Becomes.of_agrees {e e₁ e' : Economizer ν} {o : Occasion} (h : e₁.Becomes o e')
    (hagrees : e.Agrees e₁) (hsettings : e₁.settings = e.settings) : e.Becomes o e' := by
  cases h with
  | off h hoff => exact .off (hagrees.toSameDevice.trans h) hoff
  | withdrawal h hset => exact .withdrawal (hagrees.trans h) (hset.trans hsettings)
  | decision h hon => exact .decision (hagrees.toSameDevice.trans h) hon
  | nothing h hon => exact .nothing (hagrees.trans h) (hon.imp_right (·.trans hsettings))

theorem judge_of_isOk {e : Economizer ν} {time : Instant} {signal : ν}
    (h : (e.controller.attempt time signal).2.isOk = true) :
    ∃ (controller : Pid ν) (renderer : Hysteresis ν) (status : EconomizerStatus ν),
      (e.judge time signal).1 =
        { e with controller, renderer, lastComputed := some time, status }.drive status.calling := by
  rw [judge]
  cases ha : e.controller.attempt time signal with
  | mk controller answer =>
      rw [ha] at h
      cases answer with
      | error f => cases h
      | ok pid => exact ⟨_, _, _, rfl⟩

theorem judge_of_not_isOk {e : Economizer ν} {time : Instant} {signal : ν}
    (h : (e.controller.attempt time signal).2.isOk = false) :
    ∃ controller : Pid ν,
      (e.judge time signal).1 = { e with controller, lastComputed := some time } := by
  rw [judge]
  cases ha : e.controller.attempt time signal with
  | mk controller answer =>
      rw [ha] at h
      cases answer with
      | error f => exact ⟨_, rfl⟩
      | ok pid => cases h

theorem update_eq {e : Economizer ν} (now : Instant) (h : e.settings.isEnabled = true) :
    (e.update now).1 =
      match (e.combine now).2.value? with
      | none => (e.combine now).1.drive false
      | some signal =>
        if (e.combine now).1.isDecided (e.combine now).2.time then (e.combine now).1
        else ((e.combine now).1.judge (e.combine now).2.time signal).1 := by
  rw [update, if_pos h]
  cases hc : e.combine now with
  | mk e₁ combined =>
      dsimp only
      cases combined.value? with
      | none => rfl
      | some signal =>
          dsimp only
          split <;> rfl

/-- The readings that were noted stay, or both are forgotten. -/
theorem readings_update (e : Economizer ν) (now : Instant) :
    ((e.update now).1.indoor = e.indoor ∧ (e.update now).1.ambient = e.ambient) ∨
      ((e.update now).1.indoor = none ∧ (e.update now).1.ambient = none) := by
  by_cases hs : e.settings.isEnabled = true
  · rw [update_eq now hs]
    rcases e.combine_cases now with ⟨hv, heq | heq⟩ | ⟨heq, -⟩
    · exact .inl (by simp [hv, heq])
    · exact .inr (by simp [hv, heq])
    · rw [heq]
      split
      · exact .inl (by simp)
      · split
        · exact .inl ⟨rfl, rfl⟩
        · rename_i signal _ _
          cases ha : (e.controller.attempt (e.combine now).2.time signal).2.isOk with
          | true =>
              obtain ⟨controller, renderer, status, hjudge⟩ := judge_of_isOk ha
              exact .inl (by simp [hjudge])
          | false =>
              obtain ⟨controller, hjudge⟩ := judge_of_not_isOk ha
              exact .inl (by simp [hjudge])
  · rw [update, if_neg hs]
    exact .inl (by simp [disable])

/-- What becomes of an economizer with a reading that was noted, and that it has a pair of readings
if there was a decision or nothing to decide. -/
theorem becomes_update (e : Economizer ν) (now : Instant) :
    e.Becomes (e.occasionAt now) (e.update now).1 ∧
      (e.occasionAt now = .decision ∨ e.occasionAt now = .nothing →
        ∃ indoor ambient, (e.update now).1.Paired now indoor ambient) := by
  by_cases hs : e.settings.isEnabled = true
  · rw [occasionAt, if_pos hs, update_eq now hs]
    rcases e.combine_cases now with ⟨hv, heq⟩ | ⟨heq, indoor, ambient, hpaired⟩
    · have hagrees : e.Agrees (e.combine now).1 := by
        rcases heq with heq | heq
        · rw [heq]
          exact .refl e
        · rw [heq]
          exact ⟨⟨rfl, rfl, rfl, rfl, rfl⟩, rfl, rfl⟩
      rw [hv]
      exact ⟨.withdrawal hagrees (combine_settings e now), by simp⟩
    · rw [heq]
      cases hv : (e.combine now).2.value? with
      | none => exact ⟨.withdrawal (.refl e) rfl, by simp⟩
      | some signal =>
          dsimp only
          by_cases hd : e.isDecided (e.combine now).2.time = true
          · -- Decided before: the device stays as it is, and the pair was checked all the same.
            rw [if_pos hd, if_pos hd]
            exact ⟨.nothing (.refl e) (.inl hs), fun _ => ⟨indoor, ambient, hpaired⟩⟩
          · rw [if_neg hd, if_neg hd]
            by_cases ha : (e.controller.attempt (e.combine now).2.time signal).2.isOk = true
            · obtain ⟨controller, renderer, status, hjudge⟩ := judge_of_isOk ha
              rw [if_pos ha, hjudge]
              refine ⟨.decision ⟨rfl, rfl, rfl, rfl, rfl⟩ hs, fun _ => ?_⟩
              refine ⟨indoor, ambient, ?_⟩
              rw [drive]
              split <;> exact ⟨hpaired.inside, hpaired.outside, hpaired.insideHolds,
                hpaired.outsideHolds, hpaired.insideWithin, hpaired.outsideWithin⟩
            · obtain ⟨controller, hjudge⟩ := judge_of_not_isOk (Bool.eq_false_iff.mpr ha)
              rw [if_neg ha, hjudge]
              exact ⟨.nothing ⟨⟨rfl, rfl, rfl, rfl, rfl⟩, rfl, rfl⟩ (.inl hs),
                fun _ => ⟨indoor, ambient, hpaired.inside, hpaired.outside, hpaired.insideHolds,
                  hpaired.outsideHolds, hpaired.insideWithin, hpaired.outsideWithin⟩⟩
  · have hoff : (e.update now).1 = e.disable := by rw [update, if_neg hs]
    rw [occasionAt, if_neg hs, hoff]
    exact ⟨.off ⟨rfl, rfl, rfl, rfl, rfl⟩ (Bool.eq_false_iff.mpr hs), by simp⟩

/-- What becomes of an economizer with a call, short of its end. -/
theorem becomes_after (e : Economizer ν) {call : EconomizerCall ν} (hcall : call ≠ .close) :
    e.Becomes (e.occasion call) (e.after call) := by
  cases call with
  | indoor now reading =>
      exact (becomes_update _ now).1.of_agrees ⟨⟨rfl, rfl, rfl, rfl, rfl⟩, rfl, rfl⟩ rfl
  | ambient now reading =>
      exact (becomes_update _ now).1.of_agrees ⟨⟨rfl, rfl, rfl, rfl, rfl⟩, rfl, rfl⟩ rfl
  | settings s =>
      cases hc : s.check with
      | error f =>
          have hset : e.setSettings s = .error (.economizer f) := by
            simp [setSettings, checkEconomizerSettings, hc, bind, Except.bind]
          simp only [occasion, after, hc, hset]
          exact .nothing (.refl e) (.inr rfl)
      | ok _ =>
          have hagrees : e.Agrees
              { e with settings := s, status := { e.status with settings := some s } } :=
            ⟨⟨rfl, rfl, rfl, rfl, rfl⟩, rfl, rfl⟩
          have hset : e.setSettings s =
              .ok (if s.isEnabled then
                { e with settings := s, status := { e.status with settings := some s } }
              else
                disable
                  { e with settings := s, status := { e.status with settings := some s } }) := by
            simp [setSettings, checkEconomizerSettings, hc, bind, Except.bind, pure, Except.pure]
          simp only [occasion, after, hc, hset]
          by_cases hs : s.isEnabled = true
          · rw [if_pos hs, hs]
            exact .nothing hagrees (.inl hs)
          · rw [if_neg hs, Bool.eq_false_iff.mpr hs]
            exact .off hagrees.toSameDevice (Bool.eq_false_iff.mpr hs)
  | suppress status => exact .nothing (.refl e) (.inr rfl)
  | close => exact absurd rfl hcall

/-! ## On and off -/

theorem drive_cases (e : Economizer ν) (on : Bool) :
    ((e.isClosed = true ∨ e.actuator = some on) ∧ e.drive on = e) ∨
      (e.isClosed = false ∧ e.actuator ≠ some on ∧
        e.drive on = { e with actuator := some on }.issue (e.driveCommand on)) := by
  by_cases h : (e.isClosed || e.actuator == some on) = true
  · refine .inl ⟨by simpa using h, ?_⟩
    rw [drive, if_pos h]
  · refine .inr ⟨?_, ?_, ?_⟩
    · cases hc : e.isClosed <;> simp_all
    · simp_all
    · rw [drive, if_neg h]

/-- A device that is told to be on or off is so, but not after the end. -/
theorem isActive_drive (e : Economizer ν) (on : Bool) :
    (e.drive on).isActive = if e.isClosed then e.isActive else on := by
  rcases drive_cases e on with ⟨hc | ha, heq⟩ | ⟨hc, -, heq⟩
  · rw [heq, if_pos hc]
  · rw [heq, isActive, ha]
    cases on <;> simp
  · rw [heq, if_neg (by simp [hc])]
    cases on <;> rfl

omit [Scalar ν] in
theorem SameDevice.isActive_eq {e e₁ : Economizer ν} (h : e.SameDevice e₁) :
    e₁.isActive = e.isActive := by
  rw [isActive, isActive, h.actuator]

/-- A device that was told to be off is off, if it was when the end came. -/
theorem SameDevice.isActive_drive_false {e e₁ : Economizer ν} (h : e.SameDevice e₁)
    (hparks : e.isClosed = true → e.isActive = false) : (e₁.drive false).isActive = false := by
  rw [isActive_drive, h.isClosed, h.isActive_eq]
  split
  · rename_i hc
    exact hparks hc
  · rfl

theorem isActive_close {e : Economizer ν} (hparks : e.isClosed = true → e.isActive = false) :
    e.close.isActive = false := by
  rw [close]
  by_cases hc : e.isClosed = true
  · rw [if_pos hc]
    exact hparks hc
  · rw [if_neg hc]
    rfl

theorem Becomes.isClosed {e e' : Economizer ν} {o : Occasion} (h : e.Becomes o e') :
    e'.isClosed = e.isClosed := by
  cases h with
  | off h _ => exact (coasts_disable _).isClosed.trans h.isClosed
  | withdrawal h _ => exact (coasts_drive _ false).isClosed.trans h.isClosed
  | decision h _ => exact (coasts_drive _ _).isClosed.trans h.isClosed
  | nothing h _ => exact h.isClosed

theorem Becomes.isActive_of_off {e e' : Economizer ν} {o : Occasion} (h : e.Becomes o e')
    (hparks : e.isClosed = true → e.isActive = false) (ho : o = .off ∨ o = .withdrawal) :
    e'.isActive = false := by
  cases h with
  | off h _ =>
      rw [disable]
      refine SameDevice.isActive_drive_false ?_ hparks
      exact ⟨h.actuator, h.issued, h.mode, h.timeout, h.isClosed⟩
  | withdrawal h _ => exact h.isActive_drive_false hparks
  | decision h _ => simp at ho
  | nothing h _ => simp at ho

/-! ## At the beginning -/

/-- An economizer that was set up and has seen nothing. -/
structure IsNew (e : Economizer ν) (setup : EconomizerSetup ν) : Prop where
  mode : e.mode = setup.mode
  timeout : e.timeout = setup.timeout
  indoor : e.indoor = none
  ambient : e.ambient = none
  actuator : e.actuator = none
  calling : e.status.calling = false
  demand : e.status.demand = 0
  isClosed : e.isClosed = false
  issued : e.issued = []

theorem isNew_create {name : String} {setup : EconomizerSetup ν} {device : Device}
    {e : Economizer ν} (h : create name setup device = .ok e) : e.IsNew setup := by
  rw [create] at h
  split at h
  · cases h
  · obtain ⟨_, -, h⟩ := Outcome.of_bind_eq_ok h
    obtain ⟨controller, -, h⟩ := Outcome.of_bind_eq_ok h
    obtain ⟨renderer, -, h⟩ := Outcome.of_bind_eq_ok h
    cases h
    exact ⟨rfl, rfl, rfl, rfl, rfl, rfl, rfl, rfl, rfl⟩

/-! ## Readings over many calls -/

/-- A call that brings no reading leaves the readings as they are. -/
theorem readings_after (e : Economizer ν) {call : EconomizerCall ν} (hcall : call.now? = none) :
    (e.after call).indoor = e.indoor ∧ (e.after call).ambient = e.ambient := by
  cases call with
  | indoor now reading => cases hcall
  | ambient now reading => cases hcall
  | settings s =>
      rw [after]
      cases hs : e.setSettings s with
      | error f => exact ⟨rfl, rfl⟩
      | ok e' =>
          obtain ⟨_, -, hs⟩ := Outcome.of_bind_eq_ok hs
          cases hs
          simp only [Except.toOption, Option.getD_some]
          split <;> simp [disable]
  | suppress status => exact ⟨rfl, rfl⟩
  | close =>
      rw [after, close]
      split <;> exact ⟨rfl, rfl⟩

/-- Of readings an economizer knows the last one of each kind, or has forgotten it. -/
theorem noted_after (e : Economizer ν) (call : EconomizerCall ν) :
    ((e.after call).indoor = none ∨
        (e.after call).indoor = (call.indoor?.map (·.attributed none)).or e.indoor) ∧
      ((e.after call).ambient = none ∨ (e.after call).ambient = call.ambient?.or e.ambient) := by
  cases hnow : call.now? with
  | none =>
      obtain ⟨hindoor, hambient⟩ := e.readings_after hnow
      cases call with
      | indoor now reading => cases hnow
      | ambient now reading => cases hnow
      | settings s => exact ⟨.inr hindoor, .inr hambient⟩
      | suppress status => exact ⟨.inr hindoor, .inr hambient⟩
      | close => exact ⟨.inr hindoor, .inr hambient⟩
  | some now =>
      cases call with
      | indoor now' reading =>
          rcases readings_update { e with indoor := some (reading.attributed none) } now'
            with ⟨hindoor, hambient⟩ | ⟨hindoor, hambient⟩
          · exact ⟨.inr hindoor, .inr hambient⟩
          · exact ⟨.inl hindoor, .inl hambient⟩
      | ambient now' reading =>
          rcases readings_update { e with ambient := some reading } now'
            with ⟨hindoor, hambient⟩ | ⟨hindoor, hambient⟩
          · exact ⟨.inr hindoor, .inr hambient⟩
          · exact ⟨.inl hindoor, .inl hambient⟩
      | settings s => cases hnow
      | suppress status => cases hnow
      | close => cases hnow

end Economizer

end HomeClimate
