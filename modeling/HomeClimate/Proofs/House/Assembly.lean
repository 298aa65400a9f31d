import HomeClimate.House.Assembly
import HomeClimate.Proofs.House.SensorChain
import HomeClimate.Proofs.Zone.Operated

/-!
# The parts that a configuration makes

What is known of a zone that was just built, whatever its configuration says: it has
the name that it was given, it has seen nothing, it is not closed, the renderer of its
thermostat has thresholds one below and one above zero, and its economizer, if it has
one, is one that was set up.  And of a sensor chain
that was just set up: it has the name and the sources that it was given, and its
guard has seen nothing and is patient for some time.
-/

namespace HomeClimate

variable {ν : Type} [Scalar ν]

/-! ## Thermostats -/

/-- A hysteresis controller around zero that goes off one below it and on one above. -/
structure Hysteresis.IsStandard (h : Hysteresis ν) : Prop where
  setpoint : h.loop.setpoint = 0
  low : h.low = -1
  high : h.high = 1

theorem Hysteresis.isStandard_symmetric {name : String} {h : Hysteresis ν}
    (hcreate : symmetric name 0 1 = .ok h) : h.IsStandard := by
  rw [symmetric, create] at hcreate
  obtain ⟨_, -, hcreate⟩ := Outcome.of_bind_eq_ok hcreate
  obtain ⟨_, -, hcreate⟩ := Outcome.of_bind_eq_ok hcreate
  dsimp only at hcreate
  split at hcreate
  · cases hcreate
  · split at hcreate
    · cases hcreate
    · obtain ⟨loop, hloop, hcreate⟩ := Outcome.of_bind_eq_ok hcreate
      obtain ⟨_, -, hloop⟩ := Outcome.of_bind_eq_ok hloop
      cases hloop
      cases hcreate
      exact ⟨rfl, rfl, rfl⟩

namespace Thermostat

theorem create_name {name : String} {setpoint : ν} {range : SetpointRange ν}
    {pid : PidSettings ν} {t : Thermostat ν} (h : create name setpoint range pid = .ok t) :
    t.name = name ∧ t.renderer.IsStandard := by
  obtain ⟨_, -, h⟩ := Outcome.of_bind_eq_ok h
  obtain ⟨controller, -, h⟩ := Outcome.of_bind_eq_ok h
  obtain ⟨renderer, hr, h⟩ := Outcome.of_bind_eq_ok h
  cases h
  exact ⟨rfl, Hysteresis.isStandard_symmetric (ZoneError.ofControl_eq_ok hr)⟩

/-- Another setpoint is a matter of the controller only. -/
theorem setSetpoint_rest {t t' : Thermostat ν} {setpoint : ν}
    (h : t.setSetpoint setpoint = .ok t') : t'.name = t.name ∧ t'.renderer = t.renderer := by
  obtain ⟨_, -, h⟩ := Outcome.of_bind_eq_ok h
  obtain ⟨controller, -, h⟩ := Outcome.of_bind_eq_ok h
  cases h
  exact ⟨rfl, rfl⟩

end Thermostat

/-! ## Zones -/

/-- A zone that was just built. -/
structure Zone.IsNew (z : Zone ν) (name : String) : Prop where
  name : z.name = name
  lastVerdict : z.lastVerdict = none
  isClosed : z.isClosed = false
  renderer : z.thermostat.renderer.IsStandard
  economizer : z.IsEquipped

theorem ZoneConfig.isReachable_buildEconomizer {config : ZoneConfig ν} {device : Option Device}
    {economizer : Option (Economizer ν)} (h : config.buildEconomizer device = .ok economizer) :
    ∀ e, economizer = some e → e.IsReachable := by
  intro e he
  cases hc : config.economizer with
  | none =>
      simp only [buildEconomizer, hc] at h
      cases h
      cases he
  | some c =>
      cases device with
      | none =>
          simp only [buildEconomizer, hc] at h
          cases h
          cases he
      | some device =>
          simp only [buildEconomizer, hc] at h
          obtain ⟨e', he', heq⟩ := Outcome.of_map_eq_ok (Outcome.of_mapError_eq_ok h)
          rw [← heq] at he
          cases he
          exact Economizer.isReachable_create he'

theorem ZoneConfig.isNew_build {config : ZoneConfig ν} {device : Option Device} {z : Zone ν}
    (h : config.build device = .ok z) : z.IsNew config.name := by
  obtain ⟨thermostat, hthermostat, h⟩ := Outcome.of_bind_eq_ok h
  obtain ⟨economizer, heconomizer, h⟩ := Outcome.of_bind_eq_ok h
  have hequipped := Zone.isEquipped_create (Outcome.of_mapError_eq_ok h)
    (isReachable_buildEconomizer heconomizer)
  obtain ⟨range, -, hthermostat⟩ := Outcome.of_bind_eq_ok hthermostat
  obtain ⟨pid, -, hthermostat⟩ := Outcome.of_bind_eq_ok hthermostat
  obtain ⟨hname, hrenderer⟩ := Thermostat.create_name (Outcome.of_mapError_eq_ok hthermostat)
  obtain ⟨t, ht, h⟩ := Outcome.of_bind_eq_ok (Outcome.of_mapError_eq_ok h)
  obtain ⟨hname', hrenderer'⟩ := Thermostat.setSetpoint_rest ht
  obtain ⟨configured, -, h⟩ := Outcome.of_bind_eq_ok h
  cases h
  refine ⟨hname'.trans hname, rfl, rfl, ?_, hequipped⟩
  dsimp only
  rw [hrenderer']
  exact hrenderer

/-! ## Sensor chains -/

/-- A chain that was just set up. -/
structure SensorChain.IsNew (c : SensorChain ν) (name : String) (config : SensorConfig) : Prop where
  label : c.label = (name, config.sources)
  timeout : c.silence.timeout = Span.millis config.timeoutMillis
  isPatient : 0 < c.silence.timeout
  lastSeen : c.silence.lastSeen = none
  inTimeout : c.silence.inTimeout = false

omit [Scalar ν] in
theorem Fallback.sources_create {sources : List String} {f : Fallback ν}
    (h : create sources = .ok f) : f.sources = sources := by
  obtain ⟨_, -, h⟩ := Outcome.of_bind_eq_ok h
  split at h
  · cases h
  · cases h
    rw [Fallback.sources, List.map_map]
    exact List.map_id _

theorem SensorChain.isNew_create {name : String} {config : SensorConfig} {c : SensorChain ν}
    (h : create name config = .ok c) : c.IsNew name config := by
  obtain ⟨fallback, hfallback, h⟩ := Outcome.of_bind_eq_ok h
  obtain ⟨median, -, h⟩ := Outcome.of_bind_eq_ok h
  obtain ⟨silence, hsilence, h⟩ := Outcome.of_bind_eq_ok h
  cases h
  have hguard := Outcome.of_mapError_eq_ok hsilence
  rw [SilenceGuard.create] at hguard
  split at hguard
  · cases hguard
  · rename_i hlong
    cases hguard
    have hpatient : 0 < Span.millis config.timeoutMillis :=
      Nat.lt_of_lt_of_le (by decide) (Nat.le_of_not_lt hlong)
    have hsources := Fallback.sources_create (Outcome.of_mapError_eq_ok hfallback)
    exact ⟨congrArg (name, ·) hsources, rfl, hpatient, rfl, rfl⟩

/-! ## A cabin -/

/-- An economizer that cools when it is two degrees colder outside, down to 18. -/
def EconomizerConfig.cellar : EconomizerConfig ν :=
  { mode := .cooling, changeoverDelta := Scalar.ofInt 2, target := Scalar.ofInt 18, enabled := true,
    keepsHvacOn := false, maxPower := 1, pid := none, timeoutSeconds := 90 }

/-- A cabin with one zone, the den, which has a sensor on its wall and perhaps an
economizer.  There is a sensor on the roof, and no schedule. -/
def SystemConfig.cabin (mode : Mode) (gain : ν) (economizer : Option (EconomizerConfig ν)) :
    SystemConfig ν :=
  { version := 1, name := "cabin", unit := { name := "heater", mode }
    zones :=
      [{ name := "den", setpoint := Scalar.ofInt 20, range := .standard
         pid := { p := gain, i := 0, d := 0, limit := 0, integralSeconds := none,
                  slopeSeconds := none }
         enabled := true, voting := true, dumpPriority := 0
         sensor := { sources := ["wall"] }, economizer }]
    ambient := some { sources := ["roof"] }, scheduler := {}, schedule := [] }

end HomeClimate
