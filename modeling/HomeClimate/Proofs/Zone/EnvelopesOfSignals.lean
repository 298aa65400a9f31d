import HomeClimate.Proofs.Zone.Envelopes
import HomeClimate.Proofs.Zone.Failures
import HomeClimate.Proofs.Zone.Operated

/-!
# Economizers and zones that keep signals

With the envelopes of its readings in the place of the readings an economizer is an economizer
on envelopes (`Economizer.envelopes`), and a zone is a zone on envelopes (`Zone.envelopes`).
Whatever is done to the one, with a signal, is done to the other, with the envelope of the
signal.

* Recording a reading: `Economizer.recordIndoor_envelopes`, `Economizer.recordAmbient_envelopes`.
* Changing a status: `Economizer.suppress_envelopes`.
* Taking a sample: `Zone.attempt_envelopes`; replaying a verdict: `Zone.replay?_envelopes`.
* Other settings, another period, shutting down: these do not see the readings, so they do the
  same without them (`Economizer.unread`, `Zone.unread`).

So the economizers and zones that can be reached with signals are among those that can be
reached with envelopes, and none of them ever gets to where there should be a value and is none.
-/

namespace HomeClimate

variable {ν π : Type}

variable [Scalar ν]

namespace Economizer

/-! ## Economizers -/

omit [Scalar ν] in
/-- The economizer without its readings. -/
def unread (e : Economizer ν) : Economizer ν := { e with indoor := none, ambient := none }

omit [Scalar ν] in
/-- The economizer with the envelopes of its readings. -/
def envelopes (e : Economizer ν) : Envelopes.Economizer ν :=
  ⟨e.unread, e.indoor.map Signal.bare, e.ambient.map Signal.bare⟩

omit [Scalar ν] in
theorem envelopes_of_none {e : Economizer ν} (hindoor : e.indoor = none)
    (hambient : e.ambient = none) : e.envelopes = ⟨e, none, none⟩ := by
  cases e
  cases hindoor
  cases hambient
  rfl

theorem unread_drive (e : Economizer ν) (on : Bool) : (e.drive on).unread = e.unread.drive on := by
  simp only [drive, show e.unread.isClosed = e.isClosed from rfl,
    show e.unread.actuator = e.actuator from rfl]
  split <;> rfl

/-- Driving the device leaves the readings alone. -/
theorem envelopes_drive (e : Economizer ν) (on : Bool) :
    (e.drive on).envelopes = { e.envelopes with rest := e.unread.drive on } := by
  simp only [envelopes, unread_drive, drive_indoor, drive_ambient]

theorem envelopes_disable (e : Economizer ν) :
    e.disable.envelopes = { e.envelopes with rest := e.unread.disable } := envelopes_drive _ false

/-- Settings do not see the readings, and leave them alone. -/
theorem unread_of_setSettings {e e' : Economizer ν} {s : EconomizerSettings ν}
    (h : e.setSettings s = .ok e') :
    e.unread.setSettings s = .ok e'.unread ∧ e'.indoor = e.indoor ∧ e'.ambient = e.ambient := by
  refine ⟨?_, after_settings_of_ok h ▸ e.readings_after rfl⟩
  obtain ⟨_, hcheck, h⟩ := Outcome.of_bind_eq_ok h
  cases h
  rw [setSettings, hcheck]
  show Except.ok (if s.isEnabled then _ else _) = Except.ok (unread (if s.isEnabled then _ else _))
  split
  · rfl
  · rw [disable, disable, unread_drive]
    rfl

/-- The end does not see the readings either. -/
theorem unread_close (e : Economizer ν) :
    e.close.unread = e.unread.close ∧ e.close.indoor = e.indoor ∧ e.close.ambient = e.ambient := by
  rw [close, close, show e.unread.isClosed = e.isClosed from rfl]
  split <;> exact ⟨rfl, rfl, rfl⟩

/-! ### Combining -/

omit [Scalar ν] in
theorem failureMessage?_bare (indoor ambient : Signal ν) :
    Envelopes.Economizer.failureMessage? indoor.bare ambient.bare =
      (failureOf indoor ambient).map SignalError.message := by
  obtain ⟨time, source, health⟩ := indoor
  obtain ⟨time', source', health'⟩ := ambient
  cases health <;> cases health' <;> rfl

omit [Scalar ν] in
theorem isStale_envelopes (e : Economizer ν) (now : Instant) (indoor ambient : Signal ν) :
    e.envelopes.isStale now indoor.bare ambient.bare =
      (e.isStale now indoor || e.isStale now ambient) := by
  simp only [Envelopes.Economizer.isStale, isStale,
    show e.envelopes.rest.timeout = e.timeout from rfl]
  cases e.timeout.toDifference?.bind now.sub? <;> rfl

theorem combine_envelopes (e : Economizer ν) (now : Instant) :
    e.envelopes.combine now = ((e.combine now).1.envelopes, .ok (e.combine now).2.bare) := by
  rw [Envelopes.Economizer.combine, combine, show e.envelopes.indoor = e.indoor.map Signal.bare from
    rfl, show e.envelopes.ambient = e.ambient.map Signal.bare from rfl]
  cases e.indoor with
  | none => rfl
  | some indoor =>
      cases e.ambient with
      | none => rfl
      | some ambient =>
          dsimp only [Option.map_some]
          rw [failureMessage?_bare, isStale_envelopes]
          cases hfailure : failureOf indoor ambient with
          | some error => rfl
          | none =>
              dsimp only [Option.map_none]
              -- Neither has failed, so both have a value, and the last arm is not taken.
              obtain ⟨hindoor, hambient⟩ := failureOf_eq_none hfailure
              obtain ⟨i, hi⟩ := (indoor.isWellFormed_carrying none).exists_value hindoor
              obtain ⟨a, ha⟩ := (ambient.isWellFormed_carrying none).exists_value hambient
              rw [show indoor.bare.value? = some i from hi, show indoor.value? = some i from hi,
                show ambient.bare.value? = some a from ha, show ambient.value? = some a from ha]
              split <;> rfl

/-! ### Deciding -/

omit [Scalar ν] in
theorem value?_envelopes_ambient (e : Economizer ν) :
    e.envelopes.ambient.bind Envelope.value? = e.ambient.bind Signal.value? :=
  Option.bind_map

theorem judge_envelopes (e : Economizer ν) {s : Signal ν} {v : ν} (hv : s.value? = some v) :
    e.envelopes.judge s.bare = (e.judge s.time v).enclosed envelopes fun _ => s.bare := by
  have hpid : Envelopes.pid e.controller s.bare =
      (e.controller.attempt s.time v).enclosed id fun status =>
        (s.withValue status).carrying none :=
    Envelopes.consult_value _ _ s none hv
  simp only [Envelopes.Economizer.judge, judge,
    show e.envelopes.rest.controller = e.controller from rfl, hpid]
  cases e.controller.attempt s.time v with
  | mk controller answer =>
      cases answer with
      | error f => rfl
      | ok status =>
          -- Both controllers answer in the envelope of the combined signal, which has a value.
          have hstatus := Signal.value?_withValue hv status
          have hshown := Signal.value?_withValue hv (e.renderer.step s.time status.signal).2
          have hrenderer := Envelopes.hysteresis_withValue e.renderer hv (none : Option Unit)
            status.signal
          simp only [Attempt.enclosed_ok, id]
          rw [show ((s.withValue status).carrying none).value? = some status from hstatus,
            Signal.map_carrying_withValue]
          dsimp only [Option.map_some]
          rw [show e.envelopes.rest.renderer = e.renderer from rfl, hrenderer]
          dsimp only
          rw [show ((s.withValue _).carrying none).value? = _ from hshown,
            value?_envelopes_ambient, envelopes_drive]
          rfl

theorem update_envelopes (e : Economizer ν) (now : Instant) :
    e.envelopes.update now = (e.update now).enclosed envelopes Signal.bare := by
  rw [Envelopes.Economizer.update, update, show e.envelopes.rest.settings = e.settings from rfl]
  split
  · rw [combine_envelopes]
    cases e.combine now with
    | mk e' combined =>
        dsimp only
        rw [show combined.bare.isFailed = combined.isFailed from rfl,
          show e'.envelopes.rest.isDecided = e'.isDecided from rfl]
        cases hvalue : combined.value? with
        | none =>
            rw [if_pos (combined.isFailed_iff.mpr hvalue)]
            exact Prod.ext (envelopes_drive e' false).symm rfl
        | some v =>
            rw [if_neg fun hfailed => by simpa [hvalue] using combined.isFailed_iff.mp hfailed]
            dsimp only
            rw [show combined.bare.time = combined.time from rfl]
            split
            · rfl
            · rw [judge_envelopes e' hvalue]
              cases e'.judge combined.time v with
              | mk e'' judged => cases judged <;> rfl
  · exact Prod.ext (envelopes_disable e).symm rfl

theorem recordIndoor_envelopes (e : Economizer ν) (now : Instant) (reading : Signal ν)
    (payload? : Option π) :
    e.envelopes.recordIndoor now (reading.carrying payload?) =
      (e.recordIndoor now reading).enclosed envelopes Signal.bare :=
  update_envelopes { e with indoor := some (reading.attributed none) } now

theorem recordAmbient_envelopes (e : Economizer ν) (now : Instant) (reading : Signal ν) :
    e.envelopes.recordAmbient now reading.bare =
      (e.recordAmbient now reading).enclosed envelopes Signal.bare :=
  update_envelopes { e with ambient := some reading } now

theorem suppress_envelopes (e : Economizer ν) (status : Signal (ZoneStatus ν)) :
    e.envelopes.suppress status.envelope = (e.suppress status).envelope := by
  obtain ⟨time, source, health⟩ := status
  cases health <;> rfl

/-! ### What can be reached -/

/-- What a call does to an economizer is something that can be done with envelopes, or nothing. -/
theorem step_after (e : Economizer ν) (call : EconomizerCall ν) :
    (e.after call).envelopes = e.envelopes ∨ e.envelopes.Step (e.after call).envelopes := by
  cases call with
  | indoor now reading =>
      refine .inr ?_
      have hstep := Envelopes.Economizer.Step.indoor (x := e.envelopes) now
        (reading.isWellFormed_carrying (none : Option Unit))
      rwa [e.recordIndoor_envelopes] at hstep
  | ambient now reading =>
      refine .inr ?_
      have hstep := Envelopes.Economizer.Step.ambient (x := e.envelopes) now
        (reading.isWellFormed_carrying none)
      rwa [← Signal.bare, e.recordAmbient_envelopes] at hstep
  | settings s =>
      cases hs : e.setSettings s with
      | error error =>
          rw [after, hs]
          exact .inl rfl
      | ok e' =>
          rw [after_settings_of_ok hs]
          obtain ⟨hunread, hindoor, hambient⟩ := unread_of_setSettings hs
          rw [envelopes, hindoor, hambient]
          exact .inr (.settings hunread)
  | suppress status => exact .inl rfl
  | close =>
      obtain ⟨hunread, hindoor, hambient⟩ := e.unread_close
      rw [after, envelopes, hunread, hindoor, hambient]
      exact .inr .close

theorem isReachable_run {e : Economizer ν} (h : e.envelopes.IsReachable)
    (calls : List (EconomizerCall ν)) : (e.run calls).envelopes.IsReachable := by
  induction calls generalizing e with
  | nil => exact h
  | cons call calls ih =>
      refine ih ?_
      rcases e.step_after call with hsame | hstep
      · exact hsame ▸ h
      · exact h.step hstep

/-- An economizer that was set up and has got calls is one that can be reached. -/
theorem IsReachable.envelopes {e : Economizer ν} (h : e.IsReachable) :
    e.envelopes.IsReachable := by
  obtain ⟨name, setup, device, e₀, calls, hcreate, rfl⟩ := h
  have hnew := isNew_create hcreate
  refine isReachable_run ?_ calls
  rw [envelopes_of_none hnew.indoor hnew.ambient]
  exact .create hcreate

end Economizer

namespace Zone

/-! ## Zones -/

omit [Scalar ν] in
/-- The zone without its last verdict and without the readings of its economizer. -/
def unread (z : Zone ν) : Zone ν :=
  { z with lastVerdict := none, economizer := z.economizer.map Economizer.unread }

omit [Scalar ν] in
/-- The zone with the envelopes of its last verdict and of the readings of its economizer. -/
def envelopes (z : Zone ν) : Envelopes.Zone ν :=
  ⟨z.unread, z.lastVerdict.map Signal.bare, (z.economizer.bind Economizer.indoor).map Signal.bare,
    (z.economizer.bind Economizer.ambient).map Signal.bare⟩

omit [Scalar ν] in
theorem economizer?_envelopes (z : Zone ν) :
    z.envelopes.economizer? = z.economizer.map Economizer.envelopes := by
  obtain ⟨name, thermostat, settings, period, lastVerdict, economizer, isClosed, wakeUp⟩ := z
  cases economizer <;> rfl

/-! ### Samples -/

theorem render_envelopes (z : Zone ν) (verdict : Signal (CallingStatus ν)) :
    z.envelopes.render verdict.bare = (z.render verdict).envelope := by
  rw [Envelopes.Zone.render, render, economizer?_envelopes, Signal.bare]
  simp only [← Signal.carrying_map]
  cases z.economizer with
  | none => rfl
  | some e => exact e.suppress_envelopes ((verdict.map _).attributed (some z.name))

theorem shareSample_envelopes (z : Zone ν) (now : Instant) (sample : Signal ν)
    (payload? : Option π) :
    z.envelopes.shareSample now (sample.carrying payload?) =
      (z.withEconomizer (·.recordIndoor now sample)).enclosed envelopes id := by
  rw [Envelopes.Zone.shareSample, withEconomizer, economizer?_envelopes]
  cases z.economizer with
  | none => rfl
  | some e =>
      dsimp only [Option.map_some]
      rw [e.recordIndoor_envelopes]
      cases e.recordIndoor now sample with
      | mk e' combined => cases combined <;> rfl

theorem attempt_envelopes (z : Zone ν) (now : Instant) (sample : Signal ν) (payload? : Option π) :
    z.envelopes.compute now (sample.carrying payload?) =
      (z.attempt now sample).enclosed envelopes Signal.envelope := by
  rw [Envelopes.Zone.compute, attempt, shareSample_envelopes]
  cases z.withEconomizer (·.recordIndoor now sample) with
  | mk z' given =>
      cases given with
      | error f => rfl
      | ok _ =>
          have hthermostat := z'.thermostat.attemptSample_carrying (sample.attributed none)
            (none : Option Unit)
          simp only [Attempt.enclosed_ok]
          rw [show z'.envelopes.rest.thermostat = z'.thermostat from rfl,
            show (sample.carrying payload?).withoutPayload =
              (sample.attributed none).carrying none from rfl, hthermostat]
          cases z'.thermostat.attemptSample (sample.attributed none) with
          | mk t verdict =>
              cases verdict with
              | error f => rfl
              | ok verdict =>
                  let shown : Zone ν := { z' with thermostat := t, lastVerdict := some verdict }
                  exact Prod.ext rfl (congrArg Except.ok (shown.render_envelopes verdict))

theorem replay?_envelopes (z : Zone ν) : z.envelopes.replay? = z.replay?.map Signal.envelope := by
  rw [Envelopes.Zone.replay?, replay?]
  show (z.lastVerdict.map Signal.bare).map z.envelopes.render = _
  rw [Option.map_map, Option.map_map]
  exact congrArg (Option.map · z.lastVerdict) (funext z.render_envelopes)

/-! ### What can be reached -/

/-- A change of settings does not see what a zone keeps, and leaves it alone. -/
theorem Adjusts.envelopes {z z' : Zone ν} (h : z.Adjusts z') :
    z.unread.Adjusts z'.unread ∧ z'.envelopes = { z.envelopes with rest := z'.unread } := by
  rcases h.economizer with hsame | ⟨e, e', s, he, hset, he'⟩
  · have hunread : z'.unread.economizer = z.unread.economizer :=
      congrArg (Option.map Economizer.unread) hsame
    refine ⟨⟨h.name, rfl, h.isClosed, h.thermostat, .inl hunread⟩, ?_⟩
    simp only [Zone.envelopes, h.lastVerdict, hsame]
  · obtain ⟨hset, hindoor, hambient⟩ := Economizer.unread_of_setSettings hset
    have hunread : z.unread.economizer = some e.unread :=
      congrArg (Option.map Economizer.unread) he
    have hunread' : z'.unread.economizer = some e'.unread :=
      congrArg (Option.map Economizer.unread) he'
    refine ⟨⟨h.name, rfl, h.isClosed, h.thermostat, .inr ⟨_, _, s, hunread, hset, hunread'⟩⟩, ?_⟩
    simp only [Zone.envelopes, h.lastVerdict, he, he', Option.bind_some, hindoor, hambient]

/-- Nor does the end. -/
theorem envelopes_close (z : Zone ν) :
    z.close.envelopes = { z.envelopes with rest := z.unread.close } := by
  rw [close, close, show z.unread.isClosed = z.isClosed from rfl]
  split
  · rfl
  · cases he : z.economizer with
    | none => simp [envelopes, unread, he]
    | some e =>
        obtain ⟨hunread, hindoor, hambient⟩ := e.unread_close
        simp [envelopes, unread, he, hunread, hindoor, hambient]

/-- The settings for the economizer of a zone do not see its readings, and leave them alone. -/
theorem unread_of_configureEconomizer {economizer economizer' : Option (Economizer ν)}
    {settings : ZoneSettings ν} (h : configureEconomizer economizer settings = .ok economizer') :
    configureEconomizer (economizer.map Economizer.unread) settings =
        .ok (economizer'.map Economizer.unread) ∧
      economizer'.bind Economizer.indoor = economizer.bind Economizer.indoor ∧
      economizer'.bind Economizer.ambient = economizer.bind Economizer.ambient := by
  cases economizer with
  | none =>
      cases h
      exact ⟨rfl, rfl, rfl⟩
  | some e =>
      cases hs : settings.economizer with
      | none =>
          simp only [configureEconomizer, hs] at h
          cases h
          exact ⟨by simp [configureEconomizer, hs], rfl, rfl⟩
      | some s =>
          simp only [configureEconomizer, hs] at h
          obtain ⟨e', hset, rfl⟩ := Outcome.of_map_eq_ok h
          obtain ⟨hunread, hindoor, hambient⟩ := Economizer.unread_of_setSettings hset
          exact ⟨by simp [configureEconomizer, hs, hunread, Except.map], hindoor, hambient⟩

/-- A zone is set up as one on envelopes. -/
theorem isReachable_create {thermostat : Thermostat ν} {settings : ZoneSettings ν}
    {economizer : Option (Economizer ν)} {z : Zone ν}
    (heconomizer : ∀ e, economizer = some e → e.IsReachable)
    (h : create thermostat settings economizer = .ok z) : z.envelopes.IsReachable := by
  obtain ⟨t, ht, h⟩ := Outcome.of_bind_eq_ok h
  obtain ⟨economizer', hconfigure, h⟩ := Outcome.of_bind_eq_ok h
  obtain ⟨hunread, hindoor, hambient⟩ := unread_of_configureEconomizer hconfigure
  have hcreate : Envelopes.Zone.create thermostat settings
      (economizer.map Economizer.envelopes) = .ok z.envelopes := by
    rw [Envelopes.Zone.create, Option.map_map, create, ht,
      show Envelopes.Economizer.rest ∘ Economizer.envelopes = Economizer.unread from rfl]
    simp only [bind, Except.bind, hunread, ← Except.ok.inj h]
    simp only [pure, Except.pure, Except.map, envelopes, unread, hindoor, hambient]
    cases economizer <;> rfl
  refine .create (fun x hx => ?_) hcreate
  obtain ⟨e, he, rfl⟩ := Option.map_eq_some_iff.mp hx
  exact (heconomizer e he).envelopes

/-- A call that an economizer got leaves the zone where it can be reached, whoever made it. -/
theorem isReachable_call {z : Zone ν} (h : z.envelopes.IsReachable) (call : EconomizerCall ν) :
    Envelopes.Zone.IsReachable
      ({ z with economizer := z.economizer.map (·.after call) } : Zone ν).envelopes := by
  cases he : z.economizer with
  | none =>
      have hsame : ({ z with economizer := none } : Zone ν) = z := by rw [← he]
      rw [Option.map_none, hsame]
      exact h
  | some e =>
      -- The envelopes that a zone keeps of its economizer are those of the economizer.
      have hx : z.envelopes.economizer? = some e.envelopes := by
        rw [economizer?_envelopes, he]
        rfl
      have hto : ∀ e' : Economizer ν, ({ z with economizer := some e' } : Zone ν).envelopes =
          z.envelopes.withEconomizer e'.envelopes := fun _ => rfl
      rw [Option.map_some, hto]
      rcases e.step_after call with hsame | hstep
      · rw [hsame, ← hto, ← he]
        exact h
      · exact h.economizer hx hstep

theorem isReachable_attempt {z : Zone ν} (h : z.envelopes.IsReachable) (now : Instant)
    (sample : Signal ν) : (z.attempt now sample).1.envelopes.IsReachable := by
  have hsample := h.sample now (sample.isWellFormed_carrying (none : Option Unit))
  rwa [z.attempt_envelopes] at hsample

theorem isReachable_recordAmbient {z : Zone ν} (h : z.envelopes.IsReachable) (now : Instant)
    (reading : Signal ν) : (z.recordAmbient now reading).1.envelopes.IsReachable := by
  rw [recordAmbient, withEconomizer_fst]
  exact isReachable_call h (.ambient now reading)

theorem Adjusts.isReachable {z z' : Zone ν} (hadjusts : z.Adjusts z')
    (h : z.envelopes.IsReachable) : z'.envelopes.IsReachable := by
  obtain ⟨hunread, henvelopes⟩ := hadjusts.envelopes
  rw [henvelopes]
  exact h.adjust hunread

theorem isReachable_close {z : Zone ν} (h : z.envelopes.IsReachable) :
    z.close.envelopes.IsReachable := by
  rw [envelopes_close]
  exact h.close

end Zone

end HomeClimate
