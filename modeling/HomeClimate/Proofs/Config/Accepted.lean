import HomeClimate.Proofs.Config.Check

/-!
# The parts of an accepted configuration

A check goes through its conditions one by one and stops at the first that fails, so
a configuration without a fault meets all of them.  For each part of a configuration
the conditions are the fields of a structure (`IsAccepted`), and the lemma beside it
reads them off the check.

The check of a schedule is short: a zone that is there, and seven marks for days.
Whether its times and its words can be read is not looked at.
-/

namespace HomeClimate

variable {ν : Type}

/-! ## Sensors -/

/-- Sensors in which the check finds no fault. -/
structure SensorConfig.IsAccepted (s : SensorConfig) : Prop where
  sources : s.sources ≠ []
  distinct : s.sources.Nodup
  medianDepth : s.medianDepth ≠ 0
  timeoutMillis : s.timeoutMillis ≠ 0

theorem SensorConfig.isAccepted_of_check {s : SensorConfig} {place : ConfigPlace}
    (h : (s.check place : Except (ConfigFault ν) Unit) = .ok ()) : s.IsAccepted := by
  rw [check] at h
  split at h
  · cases h
  rename_i hsources
  split at h
  · cases h
  rename_i hrepeated
  split at h
  · cases h
  rename_i hdepth
  split at h
  · cases h
  rename_i htimeout
  refine ⟨?_, (freshAfter_of_firstRepeated? hrepeated).1, hdepth, htimeout⟩
  rintro hnil
  exact hsources (by rw [hnil]; rfl)

variable [Scalar ν]

/-! ## Controllers -/

/-- A window of a controller in which the check finds no fault. -/
def PidConfig.IsWindow (window : Option ν) : Prop :=
  ∀ seconds, window = some seconds → Scalar.isFinite seconds = true ∧ ¬ seconds ≤ 0

theorem PidConfig.isWindow_of_check {place : ConfigPlace} {which : PidWindow} {window : Option ν}
    (h : checkWindow place which window = .ok ()) : IsWindow window := by
  rintro seconds rfl
  rw [checkWindow] at h
  split at h
  · cases h
  rename_i hseconds
  simpa using hseconds

/-- A controller in which the check finds no fault. -/
structure PidConfig.IsAccepted (c : PidConfig ν) : Prop where
  p : Scalar.isFinite c.p = true
  i : Scalar.isFinite c.i = true
  d : Scalar.isFinite c.d = true
  gain : (c.p == 0 && c.i == 0 && c.d == 0) = false
  limit : Scalar.isFinite c.limit = true
  limit_nonneg : ¬ c.limit < 0
  integral : IsWindow c.integralSeconds
  slope : IsWindow c.slopeSeconds

theorem PidConfig.isAccepted_of_check {c : PidConfig ν} {place : ConfigPlace}
    (h : c.check place = .ok ()) : c.IsAccepted := by
  rw [check] at h
  dsimp only at h
  split at h
  · cases h
  rename_i hfinite
  split at h
  · cases h
  rename_i hgain
  split at h
  · cases h
  rename_i hlimit
  obtain ⟨_, hintegral, hslope⟩ := Outcome.of_bind_eq_ok h
  simp only [Bool.not_eq_true', Bool.not_eq_false, Bool.and_eq_true] at hfinite
  simp only [Bool.or_eq_true, Bool.not_eq_true', Bool.not_eq_false, decide_eq_true_eq,
    not_or] at hlimit
  obtain ⟨⟨hp, hi⟩, hd⟩ := hfinite
  exact ⟨hp, hi, hd, Bool.eq_false_iff.mpr hgain, hlimit.1, hlimit.2,
    isWindow_of_check hintegral, isWindow_of_check hslope⟩

/-! ## Economizers -/

/-- An economizer in which the check finds no fault. -/
structure EconomizerConfig.IsAccepted (e : EconomizerConfig ν) : Prop where
  delta : Scalar.isFinite e.changeoverDelta = true
  delta_nonneg : ¬ e.changeoverDelta < 0
  target : Scalar.isFinite e.target = true
  power_nonneg : 0 ≤ e.maxPower
  power_le_one : e.maxPower ≤ 1
  timeout : e.timeoutSeconds ≠ 0
  pid : ∀ pid, e.pid = some pid → pid.IsAccepted

theorem EconomizerConfig.isAccepted_of_check {e : EconomizerConfig ν} {zone : String}
    (h : e.check zone = .ok ()) : e.IsAccepted := by
  rw [check] at h
  dsimp only at h
  split at h
  · cases h
  rename_i hdelta
  split at h
  · cases h
  rename_i htarget
  split at h
  · cases h
  rename_i hpower
  split at h
  · cases h
  rename_i htimeout
  simp only [Bool.or_eq_true, Bool.not_eq_true', Bool.not_eq_false, decide_eq_true_eq,
    not_or] at hdelta
  simp only [Bool.not_eq_true', Bool.not_eq_false] at htarget
  simp only [Bool.not_eq_true', Bool.not_eq_false, Bool.and_eq_true, decide_eq_true_eq] at hpower
  refine ⟨hdelta.1, hdelta.2, htarget, hpower.1, hpower.2, htimeout, ?_⟩
  rintro pid hpid
  rw [hpid] at h
  exact PidConfig.isAccepted_of_check h

/-! ## Zones -/

/-- A zone in which the check finds no fault. -/
structure ZoneConfig.IsAccepted (z : ZoneConfig ν) : Prop where
  min : Scalar.isFinite z.range.min = true
  max : Scalar.isFinite z.range.max = true
  width : ¬ z.range.max ≤ z.range.min
  min_le_setpoint : z.range.min ≤ z.setpoint
  setpoint_le_max : z.setpoint ≤ z.range.max
  pid : z.pid.IsAccepted
  sensor : z.sensor.IsAccepted
  economizer : ∀ e, z.economizer = some e → e.IsAccepted

theorem ZoneConfig.isAccepted_of_check {z : ZoneConfig ν} (h : z.check = .ok ()) :
    z.IsAccepted := by
  rw [check] at h
  dsimp only at h
  split at h
  · cases h
  split at h
  · cases h
  rename_i hrange
  split at h
  · cases h
  rename_i hsetpoint
  obtain ⟨_, hpid, h⟩ := Outcome.of_bind_eq_ok h
  obtain ⟨_, hsensor, h⟩ := Outcome.of_bind_eq_ok h
  simp only [Bool.or_eq_true, Bool.not_eq_true', Bool.not_eq_false, decide_eq_true_eq,
    not_or] at hrange
  simp only [Bool.not_eq_true', Bool.not_eq_false, Bool.and_eq_true,
    decide_eq_true_eq] at hsetpoint
  refine ⟨hrange.1.1, hrange.1.2, hrange.2, hsetpoint.1, hsetpoint.2,
    PidConfig.isAccepted_of_check hpid, SensorConfig.isAccepted_of_check hsensor, ?_⟩
  rintro e he
  rw [he] at h
  exact EconomizerConfig.isAccepted_of_check h

/-! ## Configurations -/

namespace SystemConfig

theorem check_of_checkZones {hasAmbient : Bool} {seen : List String}
    {zones : List (ZoneConfig ν)} (h : checkZones hasAmbient seen zones = .ok ()) :
    ∀ z ∈ zones, z.check = .ok () := by
  induction zones generalizing seen with
  | nil => exact fun z hz => nomatch hz
  | cons z rest ih =>
      rw [checkZones] at h
      split at h
      · cases h
      obtain ⟨_, hz, h⟩ := Outcome.of_bind_eq_ok h
      split at h
      · cases h
      exact List.forall_mem_cons.mpr ⟨hz, ih h⟩

/-- A configuration in which the check finds no fault. -/
structure IsAccepted (c : SystemConfig ν) : Prop extends c.IsDistinct where
  zone : ∀ z ∈ c.zones, z.IsAccepted
  ambient : ∀ s, c.ambient = some s → s.IsAccepted
  granularity : c.scheduler.granularitySeconds ≠ 0
  poll : c.scheduler.pollSeconds ≠ 0
  days : ∀ p ∈ c.schedule, p.days.toList.length = 7

omit [Scalar ν] in
theorem days_of_checkPeriod {zones : List String} {p : PeriodConfig}
    (h : (checkPeriod zones p : Except (ConfigFault ν) Unit) = .ok ()) :
    p.days.toList.length = 7 := by
  rw [checkPeriod] at h
  split at h
  · cases h
  split at h
  · cases h
  · rename_i hdays
    exact Decidable.not_not.mp hdays

/-- What is left of the check when the sensors are done. -/
def checkRest (c : SystemConfig ν) : Except (ConfigFault ν) Unit := do
  match firstRepeated? [] (c.sensors.flatMap SensorConfig.sources) with
  | some source => throw (.sharedSource source)
  | none => pure ()
  if c.scheduler.granularitySeconds = 0 then throw .noGranularity
  if c.scheduler.pollSeconds = 0 then throw .noPollInterval
  c.schedule.forM (checkPeriod (c.zones.map ZoneConfig.name))

theorem parts_of_check {c : SystemConfig ν} (h : c.check = .ok ()) :
    checkZones c.ambient.isSome [] c.zones = .ok () ∧
      (∀ s, c.ambient = some s → (s.check .ambient : Except (ConfigFault ν) Unit) = .ok ()) ∧
      c.checkRest = .ok () := by
  rw [check] at h
  split at h
  · cases h
  obtain ⟨_, hzones, h⟩ := Outcome.of_bind_eq_ok h
  refine ⟨hzones, ?_⟩
  cases hambient : c.ambient with
  | none =>
      rw [hambient] at h
      refine ⟨?_, h⟩
      rintro s ⟨⟩
  | some sensor =>
      rw [hambient] at h
      obtain ⟨_, hsensor, h⟩ := Outcome.of_bind_eq_ok h
      refine ⟨?_, h⟩
      rintro s ⟨⟩
      exact hsensor

theorem isAccepted_of_check {c : SystemConfig ν} (h : c.check = .ok ()) : c.IsAccepted := by
  obtain ⟨hzones, hambient, hrest⟩ := parts_of_check h
  rw [checkRest] at hrest
  split at hrest
  · cases hrest
  dsimp only at hrest
  split at hrest
  · cases hrest
  rename_i hgranularity
  split at hrest
  · cases hrest
  rename_i hpoll
  exact {
    toIsDistinct := isDistinct_of_check h
    zone := fun z hz => ZoneConfig.isAccepted_of_check (check_of_checkZones hzones z hz)
    ambient := fun s hs => SensorConfig.isAccepted_of_check (hambient s hs)
    granularity := hgranularity
    poll := hpoll
    days := fun p hp => days_of_checkPeriod (Outcome.forall_of_forM hrest p hp) }

end SystemConfig

end HomeClimate
