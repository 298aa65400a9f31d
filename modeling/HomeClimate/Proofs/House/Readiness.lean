import HomeClimate.House.Replay
import HomeClimate.Proofs.Config.Accepted
import HomeClimate.Proofs.Filter.Preference
import HomeClimate.Proofs.House.Assembly
import HomeClimate.Proofs.Schedule.Readable
import HomeClimate.Proofs.Zone.Setup
import HomeClimate.Proofs.Zone.Zones

/-!
# What an accepted configuration makes

The parts of a house have conditions of their own, and a configuration in which the
check finds no fault meets them, part by part: the conditions of a part are read off
the check (`IsAccepted`), and under them the part can be made.  So it goes from the
windows of a controller to the house (`SystemConfig.isReady_of_check`).

* Every zone can be made with its chain, and so can the sensors outside and the scheduler.
* The house can be put together if and only if there is a zone at all and every entry of
  the schedule can be read.  The check looks at neither.

The check compares numbers with zero, where some parts need more: a window is rounded
to nanoseconds and must then be a span, an economizer drops one of its gains, and the
readings of a median must have room.  That numbers are good for this is `Fits`, and
without it there need be no house (`SystemConfig.not_ready_of_misfits`).
-/

namespace HomeClimate

variable {ν : Type} [Scalar ν]

/-! ## Windows -/

/-- A quotient above a half is not rounded to zero. -/
theorem divideToEven_pos {num den : Nat} (h : den < 2 * num) : 0 < divideToEven num den := by
  rw [divideToEven]
  by_cases hzero : num / den = 0
  · have hrest : num % den = num := by simpa [hzero] using Nat.mod_add_div num den
    rw [if_pos (.inl (hrest.symm ▸ h))]
    exact Nat.succ_pos _
  · split
    · exact Nat.succ_pos _
    · exact Nat.pos_of_ne_zero hzero

/-- A number of seconds above zero and below `2 ^ 64` is a span.  It is not zero if the number is
above half a nanosecond. -/
theorem exists_spanOfSeconds {seconds : ν} {q : Rat} (hq : Scalar.toRat? seconds = some q)
    (hpos : 0 < q) (hlt : q < 2 ^ 64) :
    ∃ span, spanOfSeconds seconds = .ok span ∧ (1 < 2 * Span.perSecond * q → span ≠ 0) := by
  have hnum : 0 < q.num := Rat.num_pos.mpr hpos
  have hden : (0 : Rat) < q.den := by exact_mod_cast q.pos
  have hbound : ¬ (q.num < 0 ∨ (twoTo 64 * q.den : Nat) ≤ q.num) := by
    have hmul : (q.num : Rat) < 2 ^ 64 * q.den := by
      rw [← q.num_div_den, div_lt_iff₀ hden] at hlt
      exact_mod_cast hlt
    have hint : q.num < 2 ^ 64 * q.den := by exact_mod_cast hmul
    have htwo : ((twoTo 64 * q.den : Nat) : Int) = 2 ^ 64 * q.den := by
      push_cast [twoTo]
      rfl
    omega
  refine ⟨divideToEven (q.num.toNat * Span.perSecond) q.den, ?_, ?_⟩
  · rw [spanOfSeconds, Span.ofSeconds?, hq]
    dsimp only
    rw [if_neg hbound]
  · intro hhalf
    refine Nat.pos_iff_ne_zero.mp (divideToEven_pos ?_)
    have hmul : (q.den : Rat) < 2 * Span.perSecond * q.num := by
      rw [← q.num_div_den, ← mul_div_assoc, lt_div_iff₀ hden, one_mul] at hhalf
      exact_mod_cast hhalf
    have hint : (q.den : Int) < 2 * Span.perSecond * q.num := by exact_mod_cast hmul
    have htoNat : (q.num.toNat : Int) = q.num := Int.toNat_of_nonneg hnum.le
    rw [← htoNat] at hint
    have hnat : q.den < 2 * Span.perSecond * q.num.toNat := by exact_mod_cast hint
    rwa [mul_assoc, mul_comm Span.perSecond] at hnat

/-! ## Controllers -/

/-- Windows that are spans: each of them is below `2 ^ 64` seconds, and that of the integral is above
half a nanosecond. -/
structure PidConfig.Fits (c : PidConfig ν) : Prop where
  integral : ∀ seconds q, c.integralSeconds = some seconds → Scalar.toRat? seconds = some q →
    1 < 2 * Span.perSecond * q ∧ q < 2 ^ 64
  slope : ∀ seconds q, c.slopeSeconds = some seconds → Scalar.toRat? seconds = some q → q < 2 ^ 64

/-- A window that the check accepts is above zero, so it is a span if it is not too long. -/
theorem exists_spanOr [LawfulScalar ν] (usual : Span) {window : Option ν}
    (haccepted : PidConfig.IsWindow window)
    (hfits : ∀ seconds q, window = some seconds → Scalar.toRat? seconds = some q → q < 2 ^ 64) :
    ∃ span, spanOr usual window = .ok span ∧ (usual ≠ 0 → (∀ seconds q, window = some seconds →
      Scalar.toRat? seconds = some q → 1 < 2 * Span.perSecond * q) → span ≠ 0) := by
  cases window with
  | none => exact ⟨usual, rfl, fun husual _ => husual⟩
  | some seconds =>
      obtain ⟨hfinite, hpositive⟩ := haccepted seconds rfl
      obtain ⟨q, hq, hpos⟩ := LawfulScalar.exists_toRat? hfinite hpositive
      obtain ⟨span, hspan, hnonzero⟩ := exists_spanOfSeconds hq hpos (hfits seconds q rfl hq)
      exact ⟨span, hspan, fun _ hlong => hnonzero (hlong seconds q rfl hq)⟩

/-- A controller without a fault has settings to be set up with, if its windows fit. -/
theorem PidConfig.exists_settings [LawfulScalar ν] {c : PidConfig ν} (h : c.IsAccepted)
    (hfits : c.Fits) : ∃ s, c.settings = .ok s ∧ s.IsUsable := by
  let usual := PidSettings.ofGains c.p c.i c.d c.limit
  have husual : usual.integralSpan ≠ 0 := show Span.seconds 1800 ≠ 0 by decide
  obtain ⟨integral, hintegral, hnonzero⟩ := exists_spanOr usual.integralSpan h.integral
    fun seconds q hs hq => (hfits.integral seconds q hs hq).2
  obtain ⟨slope, hslope, -⟩ := exists_spanOr usual.slopeSpan h.slope hfits.slope
  refine ⟨{ usual with integralSpan := integral, slopeSpan := slope }, ?_, ?_⟩
  · rw [settings, hintegral, hslope]
    rfl
  · refine ⟨h.p, h.i, h.d, h.limit, h.gain, h.limit_nonneg, hnonzero husual ?_⟩
    exact fun seconds q hs hq => (hfits.integral seconds q hs hq).1

/-! ## Zones -/

/-- An economizer that has a gain left when its derivative gain is dropped. -/
def EconomizerConfig.Fits (e : EconomizerConfig ν) : Prop :=
  ∀ pid, e.pid = some pid → (pid.p == 0 && pid.i == 0) = false

theorem EconomizerConfig.isUsable_gains [LawfulScalar ν] {e : EconomizerConfig ν}
    (h : e.IsAccepted) (hfits : e.Fits) : e.gains.settings.IsUsable := by
  rw [gains]
  cases hpid : e.pid with
  | none => exact EconomizerGains.isUsable_standard
  | some pid =>
      have haccepted := h.pid pid hpid
      exact EconomizerGains.isUsable_settings haccepted.p haccepted.i (hfits pid hpid)
        haccepted.limit haccepted.limit_nonneg

theorem EconomizerConfig.check_settings {e : EconomizerConfig ν} (h : e.IsAccepted) :
    e.settings.check = .ok () := by
  have hdelta : Scalar.isFinite e.settings.changeoverDelta = true := h.delta
  have htarget : Scalar.isFinite e.settings.target = true := h.target
  have hnonneg : decide (e.settings.changeoverDelta < 0) = false := decide_eq_false h.delta_nonneg
  have hpower : decide (0 ≤ e.settings.maxPower) = true := decide_eq_true h.power_nonneg
  have hpower' : decide (e.settings.maxPower ≤ 1) = true := decide_eq_true h.power_le_one
  simp [EconomizerSettings.check, hdelta, htarget, hnonneg, hpower, hpower']

namespace ZoneConfig

/-- The thermostat of a zone without a fault can be set up, and takes the setpoint of the zone. -/
theorem exists_thermostat [LawfulScalar ν] {z : ZoneConfig ν} (h : z.IsAccepted)
    (hfits : z.pid.Fits) :
    ∃ t, z.thermostat = .ok t ∧ Outcome.Succeeds (t.setSetpoint z.setpoint) := by
  have hfinite : Scalar.isFinite z.setpoint = true :=
    LawfulScalar.isFinite_of_between h.min h.max h.min_le_setpoint h.setpoint_le_max
  have hrange : SetpointRange.create z.range.min z.range.max =
      .ok ⟨z.range.min, z.range.max⟩ := by
    rw [SetpointRange.create, h.min, h.max, decide_eq_false h.width]
    rfl
  have hcontains : SetpointRange.contains ⟨z.range.min, z.range.max⟩ z.setpoint = true := by
    rw [SetpointRange.contains, decide_eq_true h.min_le_setpoint, decide_eq_true h.setpoint_le_max]
    rfl
  obtain ⟨pid, hpid, husable⟩ := PidConfig.exists_settings h.pid hfits
  obtain ⟨t, ht, hsetpoint⟩ := Thermostat.exists_create z.name husable hfinite hcontains
  refine ⟨t, ?_, hsetpoint⟩
  rw [thermostat, hrange, hpid]
  exact congrArg HouseError.ofZone ht

theorem succeeds_buildEconomizer [LawfulScalar ν] {z : ZoneConfig ν} (h : z.IsAccepted)
    (hfits : ∀ e, z.economizer = some e → e.Fits) :
    Outcome.Succeeds (z.buildEconomizer (z.economizer.map fun e => e.standardDevice z.name)) := by
  cases he : z.economizer with
  | none =>
      simp only [buildEconomizer, he]
      exact Outcome.succeeds_ok none
  | some e =>
      have haccepted := h.economizer e he
      simp only [buildEconomizer, he, Option.map_some]
      refine Outcome.succeeds_mapError_iff.mpr (Outcome.succeeds_map_iff.mpr ?_)
      refine Economizer.succeeds_create ?_ (EconomizerConfig.check_settings haccepted)
        (EconomizerConfig.isUsable_gains haccepted (hfits e he))
      simp [EconomizerConfig.standardDevice, EconomizerConfig.setup]

theorem succeeds_build [LawfulScalar ν] {z : ZoneConfig ν} (h : z.IsAccepted)
    (hfits : z.pid.Fits) (hgains : ∀ e, z.economizer = some e → e.Fits) :
    Outcome.Succeeds (z.build (z.economizer.map fun e => e.standardDevice z.name)) := by
  obtain ⟨t, ht, hsetpoint⟩ := exists_thermostat h hfits
  obtain ⟨economizer, heconomizer⟩ := succeeds_buildEconomizer h hgains
  rw [build, ht, heconomizer]
  refine Outcome.succeeds_mapError_iff.mpr (Zone.succeeds_create rfl hsetpoint ?_)
  intro s hs
  obtain ⟨e, he, rfl⟩ := Option.map_eq_some_iff.mp hs
  exact EconomizerConfig.check_settings (h.economizer e he)

end ZoneConfig

/-! ## Sensor chains -/

theorem SensorChain.succeeds_create (name : String) {config : SensorConfig}
    (h : config.IsAccepted) (hdepth : config.medianDepth ≤ Median.roomLimit) :
    Outcome.Succeeds (create name config : Except (HouseError ν) (SensorChain ν)) := by
  have hfallback : (Fallback.create config.sources : Except FilterError (Fallback ν)) =
      .ok ⟨config.sources.map fun s => (s, none)⟩ :=
    Fallback.create_eq_ok h.distinct h.sources
  have hmedian : Median.create config.medianDepth (Scalar.mean : ν → ν → ν) =
      .ok ⟨config.medianDepth, Scalar.mean, []⟩ := by
    have hsome := h.medianDepth
    rw [Median.create, if_neg (by omega), if_neg (Nat.not_lt.mpr hdepth)]
  have hsilence : SilenceGuard.create name (Span.millis config.timeoutMillis) config.repeats =
      .ok ⟨name, Span.millis config.timeoutMillis, config.repeats, false, none⟩ := by
    have hlong : Span.millis 1 ≤ Span.millis config.timeoutMillis :=
      Nat.mul_le_mul_right _ (Nat.pos_of_ne_zero h.timeoutMillis)
    rw [SilenceGuard.create, if_neg (Nat.not_lt.mpr hlong)]
  rw [create, hfallback, hmedian, hsilence]
  exact Outcome.succeeds_ok _

/-! ## Schedules -/

/-- The schedules of a configuration without a fault can be made if its entries can be read. -/
theorem SystemConfig.succeeds_schedules_iff {c : SystemConfig ν} (h : c.IsAccepted) :
    Outcome.Succeeds c.schedules ↔ ∀ entry ∈ c.schedule, entry.IsReadable ν := by
  rw [schedules, Outcome.succeeds_foldlM_iff (P := fun e => e.1.IsReadable ν)]
  · constructor
    · intro hall entry hentry
      obtain ⟨index, hindex⟩ := List.mem_iff_getElem?.mp hentry
      exact hall (entry, index) (List.mk_mem_zipIdx_iff_getElem?.mpr hindex)
    · exact fun hall e he => hall e.1 (List.fst_mem_of_mem_zipIdx he)
  · intro schedules e he
    rw [← PeriodConfig.succeeds_build_iff (toString e.2)
      (h.days e.1 (List.fst_mem_of_mem_zipIdx he))]
    constructor
    · intro hround
      obtain ⟨built, hbuilt, -⟩ := Outcome.succeeds_bind_iff.mp hround
      exact ⟨built, hbuilt⟩
    · rintro ⟨built, hbuilt⟩
      exact Outcome.succeeds_bind_iff.mpr ⟨built, hbuilt, Outcome.succeeds_ok _⟩

/-! ## Houses -/

/-- A configuration of numbers that are good for the parts that use them. -/
structure SystemConfig.Fits (c : SystemConfig ν) : Prop where
  windows : ∀ z ∈ c.zones, z.pid.Fits
  gains : ∀ z ∈ c.zones, ∀ e, z.economizer = some e → e.Fits
  depths : ∀ s ∈ c.sensors, s.medianDepth ≤ Median.roomLimit

/-- A configuration of which every part can be made, with a schedule to begin with at an instant. -/
structure SystemConfig.IsReady (c : SystemConfig ν) (now : Instant) : Prop where
  zones : ∀ z ∈ c.zones, Outcome.Succeeds (Replay.buildZone z)
  ambient : ∀ s, c.ambient = some s →
    Outcome.Succeeds (SensorChain.create "ambient" s : Except (HouseError ν) _)
  scheduler : Outcome.Succeeds
    (Scheduler.create c.scheduler.settings : Except (ScheduleError ν) (Scheduler ν))
  schedules : Outcome.Succeeds c.schedules ↔ ∀ entry ∈ c.schedule, entry.IsReadable ν
  house : Outcome.Succeeds (Replay.create c now) ↔
    c.zones ≠ [] ∧ ∀ entry ∈ c.schedule, entry.IsReadable ν

omit [Scalar ν] in
theorem Scheduler.succeeds_create {s : SchedulerConfig} (hgranularity : s.granularitySeconds ≠ 0)
    (hpoll : s.pollSeconds ≠ 0) :
    Outcome.Succeeds (create s.settings : Except (ScheduleError ν) (Scheduler ν)) := by
  have hsome : ∀ {n : Nat}, n ≠ 0 → Span.seconds n ≠ 0 := fun hn =>
    Nat.mul_ne_zero hn (by decide)
  have hcheck : (s.settings.check : Except (ScheduleError ν) Unit) = .ok () :=
    (if_neg (hsome hgranularity)).trans (if_neg (hsome hpoll))
  rw [create, hcheck]
  exact Outcome.succeeds_ok _

theorem Replay.succeeds_buildZone [LawfulScalar ν] {c : SystemConfig ν} (h : c.IsAccepted)
    (hfits : c.Fits) {z : ZoneConfig ν} (hz : z ∈ c.zones) : Outcome.Succeeds (buildZone z) := by
  have haccepted := h.zone z hz
  have hdepth : z.sensor.medianDepth ≤ Median.roomLimit :=
    hfits.depths z.sensor (List.mem_append_left _ (List.mem_map_of_mem hz))
  obtain ⟨zone, hzone⟩ :=
    ZoneConfig.succeeds_build haccepted (hfits.windows z hz) (hfits.gains z hz)
  obtain ⟨chain, hchain⟩ := SensorChain.succeeds_create (ν := ν) z.name haccepted.sensor hdepth
  refine Outcome.succeeds_bind_iff.mpr ⟨zone, hzone, ?_⟩
  exact Outcome.succeeds_bind_iff.mpr ⟨chain, hchain, Outcome.succeeds_ok _⟩

/-- Zones that were built have the names that they were given. -/
theorem Replay.names_of_built {zones : List (ZoneConfig ν)} {built : List (Zone ν × SensorChain ν)}
    (h : zones.mapM buildZone = .ok built) :
    (built.map Prod.fst).map Zone.name = zones.map ZoneConfig.name := by
  have hall := Outcome.forall₂_of_mapM h
  clear h
  induction hall with
  | nil => rfl
  | cons hz _ ih =>
      obtain ⟨zone, hzone, hz⟩ := Outcome.of_bind_eq_ok hz
      obtain ⟨chain, -, hz⟩ := Outcome.of_bind_eq_ok hz
      cases hz
      exact congrArg₂ List.cons (ZoneConfig.isNew_build hzone).name ih

/-- If the zones and the sensors outside of a configuration can be made, it depends on whether there
are zones, and on the schedule, whether the house can be put together. -/
theorem Replay.succeeds_create_iff {c : SystemConfig ν} (h : c.IsAccepted)
    (hzones : ∀ z ∈ c.zones, Outcome.Succeeds (buildZone z))
    (hambient : ∀ s, c.ambient = some s →
      Outcome.Succeeds (SensorChain.create "ambient" s : Except (HouseError ν) _))
    (now : Instant) :
    Outcome.Succeeds (create c now) ↔
      c.zones ≠ [] ∧ ∀ entry ∈ c.schedule, entry.IsReadable ν := by
  obtain ⟨built, hbuilt⟩ := Outcome.succeeds_mapM hzones
  obtain ⟨ambient, hambient⟩ := Outcome.succeeds_optionMapM hambient
  obtain ⟨scheduler, hscheduler⟩ := Outcome.succeeds_mapError_iff.mpr
    (Scheduler.succeeds_create (ν := ν) h.granularity h.poll)
  have hnames := names_of_built hbuilt
  have hsome : Outcome.Succeeds (Zones.create (built.map Prod.fst)) ↔ c.zones ≠ [] := by
    rw [Zones.succeeds_create_iff (hnames.symm ▸ h.zones), ne_eq, ne_eq, ← List.map_eq_nil_iff,
      hnames, List.map_eq_nil_iff]
  rw [← SystemConfig.succeeds_schedules_iff h, ← hsome, create, hbuilt]
  constructor
  · intro hcreate
    obtain ⟨_, heq, hcreate⟩ := Outcome.succeeds_bind_iff.mp hcreate
    cases heq
    obtain ⟨_, -, hcreate⟩ := Outcome.succeeds_bind_iff.mp hcreate
    obtain ⟨_, -, hcreate⟩ := Outcome.succeeds_bind_iff.mp hcreate
    obtain ⟨zones, htable, hcreate⟩ := Outcome.succeeds_bind_iff.mp hcreate
    obtain ⟨schedules, hschedules, -⟩ := Outcome.succeeds_bind_iff.mp hcreate
    exact ⟨⟨zones, Outcome.of_mapError_eq_ok htable⟩, schedules, hschedules⟩
  · rintro ⟨htable, schedules, hschedules⟩
    obtain ⟨zones, htable⟩ := Outcome.succeeds_mapError_iff.mpr htable
    refine Outcome.succeeds_bind_iff.mpr ⟨built, rfl, ?_⟩
    refine Outcome.succeeds_bind_iff.mpr ⟨ambient, hambient, ?_⟩
    refine Outcome.succeeds_bind_iff.mpr ⟨scheduler, hscheduler, ?_⟩
    refine Outcome.succeeds_bind_iff.mpr ⟨zones, htable, ?_⟩
    exact Outcome.succeeds_bind_iff.mpr ⟨schedules, hschedules, Outcome.succeeds_ok _⟩

/-- If no fault is found in a configuration, each of its parts can be made.  The house can be put
together if there is a zone at all and the schedule can be read. -/
theorem SystemConfig.isReady_of_check [LawfulScalar ν] (c : SystemConfig ν)
    (hcheck : c.check = .ok ()) (hfits : c.Fits) (now : Instant) : c.IsReady now := by
  have h := isAccepted_of_check hcheck
  have hzones : ∀ z ∈ c.zones, Outcome.Succeeds (Replay.buildZone z) :=
    fun z hz => Replay.succeeds_buildZone h hfits hz
  have hambient : ∀ s, c.ambient = some s →
      Outcome.Succeeds (SensorChain.create "ambient" s : Except (HouseError ν) _) := by
    intro s hs
    have hmem : s ∈ c.sensors :=
      List.mem_append_right _ (hs ▸ List.mem_singleton_self s)
    exact SensorChain.succeeds_create "ambient" (h.ambient s hs) (hfits.depths s hmem)
  exact ⟨hzones, hambient, Scheduler.succeeds_create h.granularity h.poll,
    succeeds_schedules_iff h, Replay.succeeds_create_iff h hzones hambient now⟩

/-! ## A lodge -/

/-- A controller of an integral window, or of the usual one. -/
def PidConfig.gentle (p i d : Float) (integralSeconds : Option Float) : PidConfig Float :=
  { p, i, d, limit := 0, integralSeconds, slopeSeconds := none }

/-- A cabin with a schedule of one night.  Its den has an economizer with a controller of its own,
and its sensor takes a median over some readings. -/
def SystemConfig.lodge (den economizer : PidConfig Float) (medianDepth : Nat) (dusk : String) :
    SystemConfig Float :=
  let plain : SystemConfig Float := cabin .cooling 1 none
  { plain with
    zones := plain.zones.map fun z =>
      { z with pid := den, sensor := { z.sensor with medianDepth }
               economizer := some { EconomizerConfig.cellar with pid := some economizer } }
    schedule :=
      [{ zone := "den", name := "night", start := dusk, stop := "6:00", days := "MTWTFSS"
         settings := "setpoint 18, non-voting" }] }

/-- A lodge whose den has an integral window of ten minutes. -/
theorem SystemConfig.isReady_of_lodge :
    let config := lodge (.gentle 1 0.01 0 (some 600)) (.gentle 1 0 0 none) 3 "22:00"
    config.check = .ok () ∧ config.Fits ∧
      Outcome.Succeeds (Replay.create config (.ofEpoch 0 0)) := by
  intro config
  have hcheck : Outcome.holds config.check (fun _ => true) = true := by decide +kernel
  obtain ⟨_, hcheck, -⟩ := Outcome.exists_of_holds hcheck
  have hfits : config.Fits := by
    refine ⟨fun z hz => ?_, fun z hz => ?_, ?_⟩
    · obtain rfl := List.mem_singleton.mp hz
      refine ⟨fun seconds q hseconds hq => ?_, fun seconds q hseconds => nomatch hseconds⟩
      have hvalue : Scalar.toRat? (600 : Float) = some 600 := by decide +kernel
      cases hseconds
      cases hvalue.symm.trans hq
      decide +kernel
    · obtain rfl := List.mem_singleton.mp hz
      rintro e ⟨⟩ pid ⟨⟩
      decide +kernel
    · decide +kernel
  have hready := isReady_of_check config hcheck hfits (.ofEpoch 0 0)
  refine ⟨hcheck, hfits, hready.house.mpr ⟨List.cons_ne_nil _ _, fun entry hentry => ?_⟩⟩
  obtain rfl := List.mem_singleton.mp hentry
  have htimes : (Outcome.holds (Period.readTime "22:00" : Except (ScheduleError Float) _) fun t =>
      Outcome.holds (Period.readTime "6:00" : Except (ScheduleError Float) _) fun t' =>
        decide (t ≠ t')) = true := by decide +kernel
  obtain ⟨dusk, hdusk, htimes⟩ := Outcome.exists_of_holds htimes
  obtain ⟨dawn, hdawn, hne⟩ := Outcome.exists_of_holds htimes
  have hwords : (Outcome.holds (SettingsText.read "setpoint 18, non-voting" :
      Except _ (ZoneSettings Float)) fun _ => true) = true := by decide +kernel
  obtain ⟨settings, hsettings, -⟩ := Outcome.exists_of_holds hwords
  exact ⟨by decide +kernel, ⟨dusk, dawn, hdusk, hdawn, of_decide_eq_true hne⟩, settings, hsettings⟩

/-- Configurations in which no fault is found.  The first two cannot be put together because there
is no zone and because `dusk` is no time.  Of the others, an integral window is too short, one is
too long, an economizer has a derivative gain only, and a median is too deep. -/
def SystemConfig.misfits : List (SystemConfig Float) :=
  let usual := PidConfig.gentle 1 0 0 none
  [{ lodge usual usual 1 "22:00" with zones := [], schedule := [] },
   lodge usual usual 1 "dusk",
   lodge (.gentle 1 0 0 (some 1e-10)) usual 1 "22:00",
   lodge (.gentle 1 0 0 (some 1e20)) usual 1 "22:00",
   lodge usual (.gentle 0 0 1 none) 1 "22:00",
   lodge usual usual (twoTo 63) "22:00"]

/-- None of them can be put together. -/
theorem SystemConfig.not_ready_of_misfits : misfits.Forall fun config =>
    config.check = .ok () ∧ ¬ Outcome.Succeeds (Replay.create config (.ofEpoch 0 0)) := by
  have htest : (misfits.all fun config => Outcome.holds config.check (fun _ => true) &&
      !Outcome.holds (Replay.create config (.ofEpoch 0 0)) fun _ => true) = true := by
    decide +kernel
  refine List.forall_iff_forall_mem.mpr fun config hconfig => ?_
  obtain ⟨hcheck, hcreate⟩ := Bool.and_eq_true_iff.mp (List.all_eq_true.mp htest config hconfig)
  obtain ⟨_, hcheck, -⟩ := Outcome.exists_of_holds hcheck
  refine ⟨hcheck, fun ⟨house, hhouse⟩ => ?_⟩
  rw [hhouse] at hcreate
  cases hcreate

end HomeClimate
