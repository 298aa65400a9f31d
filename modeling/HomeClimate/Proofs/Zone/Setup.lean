import HomeClimate.Proofs.Number.Lawful
import HomeClimate.Proofs.Zone.Consistency

/-!
# Setting up a zone

When a zone and its parts can be set up.  A PID controller can be with settings that
are usable (`PidSettings.IsUsable`) and a finite setpoint, and a renderer around zero
always can be.  Thermostats and economizers are made of these two.  A zone tells both
once more what they were set up with, and they take it again.
-/

namespace HomeClimate

variable {ν : Type} [Scalar ν]

/-! ## Controllers -/

/-- Settings that a PID controller can be set up with. -/
structure PidSettings.IsUsable (s : PidSettings ν) : Prop where
  p : Scalar.isFinite s.p = true
  i : Scalar.isFinite s.i = true
  d : Scalar.isFinite s.d = true
  limit : Scalar.isFinite s.limit = true
  gain : (s.p == 0 && s.i == 0 && s.d == 0) = false
  limit_nonneg : ¬ s.limit < 0
  integralSpan : s.integralSpan ≠ 0

theorem PidSettings.check_eq_ok {s : PidSettings ν} (h : s.IsUsable) : s.check = .ok () := by
  rw [check, ensureFinite_eq_ok_iff.mpr h.p, ensureFinite_eq_ok_iff.mpr h.i,
    ensureFinite_eq_ok_iff.mpr h.d, ensureFinite_eq_ok_iff.mpr h.limit, h.gain,
    if_neg h.limit_nonneg, if_neg h.integralSpan]
  rfl

theorem Pid.succeeds_create (name : String) {setpoint : ν} {settings : PidSettings ν}
    (h : settings.IsUsable) (hsetpoint : Scalar.isFinite setpoint = true) :
    Outcome.Succeeds (create name setpoint settings) := by
  rw [create, PidSettings.check_eq_ok h, ControlLoop.create, ensureFinite_eq_ok_iff.mpr hsetpoint]
  exact Outcome.succeeds_ok _

theorem Hysteresis.succeeds_symmetric [LawfulScalar ν] (name : String) :
    Outcome.Succeeds (symmetric name (0 : ν) 1) := by
  rw [symmetric, create, ensureFinite_eq_ok_iff.mpr LawfulScalar.isFinite_neg_one,
    ensureFinite_eq_ok_iff.mpr LawfulScalar.isFinite_one,
    if_neg LawfulScalar.not_zero_le_neg_one, if_neg LawfulScalar.not_one_le_zero,
    ControlLoop.create, ensureFinite_eq_ok_iff.mpr LawfulScalar.isFinite_zero]
  exact Outcome.succeeds_ok _

omit [Scalar ν] in
theorem ZoneError.succeeds_ofControl {α : Type} {x : Except (ControlError ν) α}
    (h : Outcome.Succeeds x) : Outcome.Succeeds (ZoneError.ofControl x) := by
  obtain ⟨a, rfl⟩ := h
  exact ⟨a, rfl⟩

/-! ## Thermostats -/

/-- A thermostat can be set up for a setpoint in its range, and then takes this setpoint again. -/
theorem Thermostat.exists_create [LawfulScalar ν] (name : String) {setpoint : ν}
    {range : SetpointRange ν} {pid : PidSettings ν} (hpid : pid.IsUsable) (hfinite : Scalar.isFinite setpoint = true)
    (hrange : range.contains setpoint = true) :
    ∃ t, create name setpoint range pid = .ok t ∧ Outcome.Succeeds (t.setSetpoint setpoint) := by
  obtain ⟨controller, hcontroller⟩ :=
    ZoneError.succeeds_ofControl (Pid.succeeds_create (controllerName name) hpid hfinite)
  obtain ⟨renderer, hrenderer⟩ :=
    ZoneError.succeeds_ofControl (Hysteresis.succeeds_symmetric (ν := ν) (rendererName name))
  refine ⟨⟨name, range, controller, renderer, none⟩, ?_, setSetpoint_eq_ok hrange hfinite⟩
  rw [create, SetpointRange.check, if_pos hrange, hcontroller, hrenderer]
  rfl

/-! ## Economizers -/

/-- The settings of the controller of an economizer: its gains and the usual windows. -/
def EconomizerGains.settings (g : EconomizerGains ν) : PidSettings ν :=
  .ofGains g.p g.i 0 g.limit

theorem EconomizerGains.isUsable_settings [LawfulScalar ν] {g : EconomizerGains ν}
    (hp : Scalar.isFinite g.p = true) (hi : Scalar.isFinite g.i = true)
    (hgain : (g.p == 0 && g.i == 0) = false) (hlimit : Scalar.isFinite g.limit = true)
    (hnonneg : ¬ g.limit < 0) : g.settings.IsUsable := by
  refine ⟨hp, hi, LawfulScalar.isFinite_zero, hlimit, ?_, hnonneg, ?_⟩
  · change (g.p == 0 && g.i == 0 && _) = false
    rw [hgain]
    rfl
  · change Span.seconds 1800 ≠ 0
    decide

theorem EconomizerGains.isUsable_standard [LawfulScalar ν] :
    (EconomizerGains.standard : EconomizerGains ν).settings.IsUsable := by
  refine isUsable_settings LawfulScalar.isFinite_one LawfulScalar.isFinite_usualGain ?_
    LawfulScalar.isFinite_usualLimit LawfulScalar.not_usualLimit_lt_zero
  have hone : ((1 : ν) == 0) = false := LawfulScalar.one_beq_zero
  simp [standard, hone]

theorem Economizer.succeeds_create [LawfulScalar ν] {name : String} {setup : EconomizerSetup ν}
    {device : Device} (hdevice : device.modes.contains setup.mode = true)
    (hsettings : setup.settings.check = .ok ()) (hgains : setup.gains.settings.IsUsable) :
    Outcome.Succeeds (create name setup device) := by
  obtain ⟨controller, hcontroller⟩ := ZoneError.succeeds_ofControl
    (Pid.succeeds_create (controllerName name) hgains LawfulScalar.isFinite_zero)
  obtain ⟨renderer, hrenderer⟩ :=
    ZoneError.succeeds_ofControl (Hysteresis.succeeds_symmetric (ν := ν) (rendererName name))
  rw [create, if_neg (not_not.mpr hdevice), checkEconomizerSettings_eq_ok_iff.mpr hsettings]
  refine Outcome.succeeds_bind_iff.mpr ⟨(), rfl, ?_⟩
  refine Outcome.succeeds_bind_iff.mpr ⟨controller, hcontroller, ?_⟩
  exact Outcome.succeeds_bind_iff.mpr ⟨renderer, hrenderer, Outcome.succeeds_ok _⟩

/-! ## Zones -/

namespace Zone

theorem succeeds_configureEconomizer (economizer : Option (Economizer ν))
    (settings : ZoneSettings ν) (h : ∀ s, settings.economizer = some s → s.check = .ok ()) :
    Outcome.Succeeds (configureEconomizer economizer settings) := by
  cases economizer with
  | none => exact Outcome.succeeds_ok none
  | some e =>
      cases hs : settings.economizer with
      | none =>
          simp only [configureEconomizer, hs]
          exact Outcome.succeeds_ok (some e)
      | some s =>
          simp only [configureEconomizer, hs]
          exact Outcome.succeeds_map_iff.mpr (e.setSettings_of_check (h s hs))

/-- A zone can be made of a thermostat that takes its setpoint, and of settings of its economizer
that are right. -/
theorem succeeds_create {thermostat : Thermostat ν} {settings : ZoneSettings ν}
    {economizer : Option (Economizer ν)} {setpoint : ν}
    (hsetpoint : settings.setpoint = some setpoint)
    (hthermostat : Outcome.Succeeds (thermostat.setSetpoint setpoint))
    (hsettings : ∀ s, settings.economizer = some s → s.check = .ok ()) :
    Outcome.Succeeds (create thermostat settings economizer) := by
  obtain ⟨t, ht⟩ := hthermostat
  obtain ⟨configured, hconfigured⟩ := succeeds_configureEconomizer economizer
    { settings with setpoint := some setpoint } hsettings
  have hgiven : settings.setpoint.getD thermostat.setpoint = setpoint := by
    rw [hsetpoint]
    rfl
  rw [create, hgiven]
  refine Outcome.succeeds_bind_iff.mpr ⟨t, ht, ?_⟩
  exact Outcome.succeeds_bind_iff.mpr ⟨configured, hconfigured, Outcome.succeeds_ok _⟩

end Zone

end HomeClimate
