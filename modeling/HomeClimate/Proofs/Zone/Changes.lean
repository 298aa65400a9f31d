import HomeClimate.Proofs.Zone.Economizer
import HomeClimate.Zone.Loop

/-!
# What is done to a zone

Three kinds of things are done to a zone, and each leaves much of it alone.

* Its settings or its period change, or someone looks at the change: the zone is
  *adjusted*.  The last verdict stays, the thermostat at most gets another
  setpoint, and the economizer at most gets other settings.
* It takes a sample: the economizer takes it first, and then the thermostat, unless
  the economizer faults.  The new verdict is the last verdict, and the status is
  the verdict under the settings of the moment.
* It takes a reading outside: only the economizer changes.

`Adjustable` is a property that every adjustment keeps.  It is what is known of a
zone that others may adjust at any time.
-/

namespace HomeClimate

variable {ν : Type}

/-- A controller that a zone was given is one that could be set up. -/
theorem ZoneError.ofControl_eq_ok {α : Type} {x : Except (ControlError ν) α} {a : α}
    (h : ofControl x = .ok a) : x = .ok a := by
  cases x with
  | error e => cases h
  | ok a' =>
      cases h
      rfl

namespace Zone

variable [Scalar ν]

/-! ## Adjustments -/

/-- What a change of settings can do to a zone. -/
structure Adjusts (z z' : Zone ν) : Prop where
  name : z'.name = z.name
  lastVerdict : z'.lastVerdict = z.lastVerdict
  isClosed : z'.isClosed = z.isClosed
  thermostat : z'.thermostat = z.thermostat ∨
    ∃ setpoint, z.thermostat.setSetpoint setpoint = .ok z'.thermostat
  economizer : z'.economizer = z.economizer ∨
    ∃ e e' s, z.economizer = some e ∧ e.setSettings s = .ok e' ∧ z'.economizer = some e'

/-- A property that no change of settings takes away. -/
def Adjustable (P : Zone ν → Prop) : Prop := ∀ z z' : Zone ν, z.Adjusts z' → P z → P z'

theorem Adjusts.refl (z : Zone ν) : z.Adjusts z := ⟨rfl, rfl, rfl, .inl rfl, .inl rfl⟩

/-- What is remembered besides is no matter. -/
theorem Adjusts.remember {z z' : Zone ν} (h : z.Adjusts z') (settings : ZoneSettings ν)
    (period : Option (PeriodSettings ν)) (wakeUp : Bool) :
    z.Adjusts { z' with settings, period, wakeUp } :=
  ⟨h.name, h.lastVerdict, h.isClosed, h.thermostat, h.economizer⟩

theorem retarget_cases {t t' : Thermostat ν} {update : ZoneSettings ν}
    (h : retarget t update = .ok t') : t' = t ∨ ∃ setpoint, t.setSetpoint setpoint = .ok t' := by
  rw [retarget] at h
  cases hs : update.setpoint with
  | none =>
      rw [hs] at h
      exact .inl (Except.ok.inj h).symm
  | some setpoint =>
      rw [hs] at h
      exact .inr ⟨setpoint, h⟩

theorem configureEconomizer_cases {economizer economizer' : Option (Economizer ν)}
    {settings : ZoneSettings ν} (h : configureEconomizer economizer settings = .ok economizer') :
    economizer' = economizer ∨
      ∃ e e' s, economizer = some e ∧ e.setSettings s = .ok e' ∧ economizer' = some e' := by
  cases economizer with
  | none => exact .inl (Except.ok.inj h).symm
  | some e =>
      cases hs : settings.economizer with
      | none =>
          simp only [configureEconomizer, hs] at h
          exact .inl (Except.ok.inj h).symm
      | some s =>
          simp only [configureEconomizer, hs] at h
          cases he : e.setSettings s with
          | error f =>
              simp only [he] at h
              cases h
          | ok e' =>
              simp only [he] at h
              exact .inr ⟨e, e', s, rfl, he, (Except.ok.inj h).symm⟩

theorem adjusts_apply (z : Zone ν) (update : ZoneSettings ν) : z.Adjusts (z.apply update).1 := by
  rw [apply]
  cases z.checkUpdate update with
  | error f => exact .refl z
  | ok _ =>
      dsimp only
      cases ht : retarget z.thermostat update with
      | error f => exact .refl z
      | ok t =>
          dsimp only
          cases he : configureEconomizer z.economizer (z.settings.merge update) with
          | error f => exact ⟨rfl, rfl, rfl, retarget_cases ht, .inl rfl⟩
          | ok e => exact ⟨rfl, rfl, rfl, retarget_cases ht, configureEconomizer_cases he⟩

/-- An update is refused and the settings stay, or it is taken: the thermostat has its setpoint and
the settings are merged.  Either way someone is woken no more and no less than before. -/
theorem apply_outcome (z : Zone ν) (update : ZoneSettings ν) :
    (∃ f, (z.apply update).2 = .error f ∧ (z.apply update).1.settings = z.settings ∧
        (z.apply update).1.wakeUp = z.wakeUp) ∨
      ∃ thermostat economizer, retarget z.thermostat update = .ok thermostat ∧
        z.apply update =
          ({ z with thermostat, economizer, settings := z.settings.merge update },
            .ok (z.settings.merge update)) := by
  rw [apply]
  cases z.checkUpdate update with
  | error f => exact .inl ⟨f, rfl, rfl, rfl⟩
  | ok _ =>
      dsimp only
      cases ht : retarget z.thermostat update with
      | error f => exact .inl ⟨f, rfl, rfl, rfl⟩
      | ok thermostat =>
          dsimp only
          cases configureEconomizer z.economizer (z.settings.merge update) with
          | error f => exact .inl ⟨f, rfl, rfl, rfl⟩
          | ok economizer => exact .inr ⟨thermostat, economizer, rfl, rfl⟩

theorem adjusts_setSettings (z : Zone ν) (update : ZoneSettings ν) :
    z.Adjusts (z.setSettings update).1 := by
  have h := adjusts_apply z update
  rw [setSettings]
  cases ha : z.apply update with
  | mk z' answer =>
      rw [ha] at h
      cases answer with
      | error f => exact h
      | ok merged => exact h.remember _ _ true

theorem adjusts_setPeriod (z : Zone ν) (period : Option (PeriodSettings ν)) :
    z.Adjusts (z.setPeriod period).1 := by
  have hperiod : z.Adjusts { z with period } := ⟨rfl, rfl, rfl, .inl rfl, .inl rfl⟩
  unfold setPeriod
  cases period with
  | none => exact hperiod
  | some p =>
      dsimp only
      by_cases hold : z.settings.isOnHold = true
      · rw [if_pos hold]
        exact hperiod
      · rw [if_neg hold]
        have h := adjusts_apply { z with period := some p } p.settings
        cases ha : apply { z with period := some p } p.settings with
        | mk z' answer =>
            rw [ha] at h
            cases answer with
            | error f => exact ⟨h.name, h.lastVerdict, h.isClosed, h.thermostat, h.economizer⟩
            | ok merged =>
                exact ⟨h.name, h.lastVerdict, h.isClosed, h.thermostat, h.economizer⟩

theorem adjusts_answerWakeUp (z : Zone ν) : z.Adjusts z.answerWakeUp.1 := by
  rw [answerWakeUp]
  by_cases h : z.wakeUp = true
  · rw [if_pos h]
    exact ⟨rfl, rfl, rfl, .inl rfl, .inl rfl⟩
  · rw [if_neg h]
    exact .refl z

/-! ## Samples and readings -/

omit [Scalar ν] in
theorem withEconomizer_fst (z : Zone ν)
    (act : Economizer ν → Attempt ν (Economizer ν) (Signal ν)) :
    (z.withEconomizer act).1 = { z with economizer := z.economizer.map fun e => (act e).1 } := by
  obtain ⟨name, thermostat, settings, period, lastVerdict, economizer, isClosed, wakeUp⟩ := z
  cases economizer with
  | none => rfl
  | some e => rfl

omit [Scalar ν] in
/-- An economizer's part of the work fails only where the economizer does. -/
theorem withEconomizer_error {z : Zone ν}
    {act : Economizer ν → Attempt ν (Economizer ν) (Signal ν)} {f : Fault ν}
    (h : (z.withEconomizer act).2 = .error f) :
    ∃ e, z.economizer = some e ∧ (act e).2 = .error f := by
  rw [withEconomizer] at h
  cases he : z.economizer with
  | none =>
      rw [he] at h
      cases h
  | some e =>
      rw [he] at h
      refine ⟨e, rfl, ?_⟩
      cases ha : (act e).2 with
      | error f' =>
          simp only [ha] at h
          cases h
          rfl
      | ok s =>
          simp only [ha] at h
          cases h

/-- What a sample does to a zone, whatever comes of it. -/
theorem attempt_fst (z : Zone ν) (now : Instant) (sample : Signal ν) :
    ∃ thermostat lastVerdict,
      (z.attempt now sample).1 =
        { z with thermostat, lastVerdict
                 economizer := z.economizer.map fun e => (e.recordIndoor now sample).1 } ∧
      (thermostat = z.thermostat ∨
        thermostat = (z.thermostat.attemptSample (sample.attributed none)).1) := by
  have hfst := withEconomizer_fst z (·.recordIndoor now sample)
  rw [attempt]
  cases hw : z.withEconomizer (·.recordIndoor now sample) with
  | mk z' answer =>
      rw [hw] at hfst
      simp only at hfst
      cases answer with
      | error f => exact ⟨z.thermostat, z.lastVerdict, hfst, .inl rfl⟩
      | ok _ =>
          subst hfst
          dsimp only
          cases ht : z.thermostat.attemptSample (sample.attributed none) with
          | mk thermostat answer =>
              cases answer with
              | error f => exact ⟨thermostat, z.lastVerdict, rfl, .inr rfl⟩
              | ok verdict => exact ⟨thermostat, some verdict, rfl, .inr rfl⟩

/-- A sample that is answered: the thermostat has the verdict and the zone renders it. -/
theorem attempt_ok {z : Zone ν} {now : Instant} {sample : Signal ν} {status : Signal (ZoneStatus ν)}
    (h : (z.attempt now sample).2 = .ok status) :
    ∃ verdict, z.thermostat.attemptSample (sample.attributed none)
        = ((z.attempt now sample).1.thermostat, .ok verdict) ∧
      (z.attempt now sample).1.lastVerdict = some verdict ∧
      status = (z.attempt now sample).1.render verdict := by
  have hfst := withEconomizer_fst z (·.recordIndoor now sample)
  rw [attempt] at h ⊢
  cases hw : z.withEconomizer (·.recordIndoor now sample) with
  | mk z' answer =>
      rw [hw] at h hfst
      simp only at hfst
      cases answer with
      | error f => cases h
      | ok _ =>
          subst hfst
          dsimp only at h ⊢
          cases ht : z.thermostat.attemptSample (sample.attributed none) with
          | mk thermostat answer =>
              rw [ht] at h
              cases answer with
              | error f => cases h
              | ok verdict => exact ⟨verdict, rfl, rfl, (Except.ok.inj h).symm⟩

/-- A sample that is not answered: the economizer or the thermostat is at fault. -/
theorem attempt_error {z : Zone ν} {now : Instant} {sample : Signal ν} {f : Fault ν}
    (h : (z.attempt now sample).2 = .error f) :
    (∃ e, z.economizer = some e ∧ (e.recordIndoor now sample).2 = .error f) ∨
      (z.thermostat.attemptSample (sample.attributed none)).2 = .error f := by
  have hfst := withEconomizer_fst z (·.recordIndoor now sample)
  have herr : ∀ f, (z.withEconomizer (·.recordIndoor now sample)).2 = .error f → _ :=
    fun f => withEconomizer_error
  rw [attempt] at h
  cases hw : z.withEconomizer (·.recordIndoor now sample) with
  | mk z' answer =>
      rw [hw] at h hfst herr
      simp only at hfst
      cases answer with
      | error f' =>
          cases h
          exact .inl (herr f rfl)
      | ok _ =>
          subst hfst
          dsimp only at h
          cases ht : z.thermostat.attemptSample (sample.attributed none) with
          | mk thermostat answer =>
              rw [ht] at h
              cases answer with
              | error f' =>
                  cases h
                  exact .inr rfl
              | ok verdict => cases h

/-! ## The end -/

theorem close_of_isClosed {z : Zone ν} (h : z.isClosed = true) : z.close = z := if_pos h

end Zone

end HomeClimate
