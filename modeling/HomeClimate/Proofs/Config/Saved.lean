import HomeClimate.Config.Document
import HomeClimate.Proofs.Document.Kept
import HomeClimate.Proofs.House.Readiness

/-!
# Saved configurations

A configuration that is written is read back as it was.  Every part of it is kept
(`Document.Keeps`), the smallest first: what a part says is either written down, or is
absent and nothing stands for it.  That the numbers have a text to be read from is due
to the check, which lets no infinite and no missing number pass.

What is written passes the check, and what is read has to pass it and one thing more:
a version before the first is refused.  The check does not ask for that, so a
configuration of such a version can be saved and not be read again
(`SystemConfig.not_read_of_relic`).
-/

namespace HomeClimate

open Document (Fields Keeps KeepsDouble keeps_text keeps_bool keeps_natural keeps_integer32
  keeps_list keepsOptional rereads_ofFields fields?_ofFields)

/-! ## What is in a configuration -/

section Contents

variable {ν : Type}

/-- All numbers of a controller. -/
def PidConfig.numbers (c : PidConfig ν) : List ν :=
  [c.p, c.i, c.d, c.limit] ++ c.integralSeconds.toList ++ c.slopeSeconds.toList

/-- All numbers of an economizer. -/
def EconomizerConfig.numbers (e : EconomizerConfig ν) : List ν :=
  [e.changeoverDelta, e.target, e.maxPower] ++ e.pid.toList.flatMap PidConfig.numbers

/-- All numbers of a zone. -/
def ZoneConfig.numbers (z : ZoneConfig ν) : List ν :=
  [z.setpoint, z.range.min, z.range.max] ++ z.pid.numbers ++
    z.economizer.toList.flatMap EconomizerConfig.numbers

/-- All numbers of a configuration. -/
def SystemConfig.numbers (c : SystemConfig ν) : List ν := c.zones.flatMap ZoneConfig.numbers

/-- Sensors whose whole numbers fit the words that hold them. -/
structure SensorConfig.IsSized (s : SensorConfig) : Prop where
  medianDepth : s.medianDepth < twoTo 64
  timeoutMillis : s.timeoutMillis < twoTo 64

/-- A zone whose whole numbers fit the words that hold them. -/
structure ZoneConfig.IsSized (z : ZoneConfig ν) : Prop where
  dumpPriority : fitsSigned 32 z.dumpPriority = true
  sensor : z.sensor.IsSized
  economizer : ∀ e ∈ z.economizer, e.timeoutSeconds < twoTo 64

/-- A configuration whose whole numbers fit the words that hold them. -/
structure SystemConfig.IsSized (c : SystemConfig ν) : Prop where
  rateLimit : c.unit.rateLimitMillis < twoTo 64
  zone : ∀ z ∈ c.zones, z.IsSized
  ambient : ∀ s ∈ c.ambient, s.IsSized
  granularity : c.scheduler.granularitySeconds < twoTo 64
  poll : c.scheduler.pollSeconds < twoTo 64

end Contents

/-! ## Numbers that pass the check -/

section Finite

variable {ν : Type} [Scalar ν]

theorem PidConfig.IsAccepted.isFinite {c : PidConfig ν} (h : c.IsAccepted) :
    ∀ x ∈ c.numbers, Scalar.isFinite x = true := by
  intro x hx
  simp only [numbers, List.mem_append, List.mem_cons, List.not_mem_nil, or_false,
    Option.mem_toList] at hx
  rcases hx with ((rfl | rfl | rfl | rfl) | hx) | hx
  · exact h.p
  · exact h.i
  · exact h.d
  · exact h.limit
  · exact (h.integral x hx).1
  · exact (h.slope x hx).1

theorem EconomizerConfig.IsAccepted.isFinite [LawfulScalar ν] {e : EconomizerConfig ν}
    (h : e.IsAccepted) : ∀ x ∈ e.numbers, Scalar.isFinite x = true := by
  intro x hx
  simp only [numbers, List.mem_append, List.mem_cons, List.not_mem_nil, or_false,
    List.mem_flatMap, Option.mem_toList] at hx
  rcases hx with (rfl | rfl | rfl) | ⟨pid, hpid, hx⟩
  · exact h.delta
  · exact h.target
  · exact LawfulScalar.isFinite_of_between LawfulScalar.isFinite_zero LawfulScalar.isFinite_one
      h.power_nonneg h.power_le_one
  · exact (h.pid pid hpid).isFinite x hx

theorem ZoneConfig.IsAccepted.isFinite [LawfulScalar ν] {z : ZoneConfig ν} (h : z.IsAccepted) :
    ∀ x ∈ z.numbers, Scalar.isFinite x = true := by
  intro x hx
  simp only [numbers, List.mem_append, List.mem_cons, List.not_mem_nil, or_false,
    List.mem_flatMap, Option.mem_toList] at hx
  rcases hx with ((rfl | rfl | rfl) | hx) | ⟨e, he, hx⟩
  · exact LawfulScalar.isFinite_of_between h.min h.max h.min_le_setpoint h.setpoint_le_max
  · exact h.min
  · exact h.max
  · exact h.pid.isFinite x hx
  · exact (h.economizer e he).isFinite x hx

/-- No number of a configuration without a fault is infinite or missing. -/
theorem SystemConfig.IsAccepted.isFinite [LawfulScalar ν] {c : SystemConfig ν}
    (h : c.IsAccepted) : ∀ x ∈ c.numbers, Scalar.isFinite x = true := by
  intro x hx
  obtain ⟨z, hz, hx⟩ := List.mem_flatMap.mp hx
  exact (h.zone z hz).isFinite x hx

end Finite

/-! ## Parts that are kept -/

theorem Mode.keeps (m : Mode) : Keeps Mode.ofDocument? (.text m.name) m := by
  refine ⟨.text m.name, Json.rereads_text m.name, trivial, ?_⟩
  cases m <;> rfl

theorem UnitConfig.keeps {u : UnitConfig} (h : u.rateLimitMillis < twoTo 64) :
    Keeps ofDocument? u.document u := by
  obtain ⟨name, hname, -, hname'⟩ := keeps_text u.name
  obtain ⟨mode, hmode, -, hmode'⟩ := u.mode.keeps
  obtain ⟨rate, hrate, -, hrate'⟩ := keeps_natural (Nat.le_refl 64) h
  refine ⟨.ofFields [("name", some name), ("mode", some mode), ("rate_limit_ms", some rate)],
    Json.rereads_record ?_, trivial, ?_⟩
  · simp [hname, hmode, hrate]
  · rw [ofDocument?, fields?_ofFields]
    · simp [Fields.defaulted?, hname', hmode', hrate']
    · decide
    · rfl

theorem SensorConfig.keeps {s : SensorConfig} (h : s.IsSized) :
    Keeps ofDocument? s.document s := by
  obtain ⟨sources, hsources, -, hsources'⟩ := keeps_list s.sources fun source _ => keeps_text source
  obtain ⟨depth, hdepth, -, hdepth'⟩ := keeps_natural (Nat.le_refl 64) h.medianDepth
  obtain ⟨timeout, htimeout, -, htimeout'⟩ := keeps_natural (Nat.le_refl 64) h.timeoutMillis
  obtain ⟨repeats, hrepeats, -, hrepeats'⟩ := keeps_bool s.repeats
  refine ⟨.ofFields [("sources", some sources), ("median_depth", some depth),
    ("timeout_ms", some timeout), ("repeat", some repeats)], Json.rereads_record ?_, trivial, ?_⟩
  · simp [hsources, hdepth, htimeout, hrepeats]
  · rw [ofDocument?, fields?_ofFields]
    · simp [Fields.required?, Fields.defaulted?, hsources', hdepth', htimeout', hrepeats']
    · decide
    · rfl

theorem SchedulerConfig.keeps {s : SchedulerConfig} (hgranularity : s.granularitySeconds < twoTo 64)
    (hpoll : s.pollSeconds < twoTo 64) : Keeps ofDocument? s.document s := by
  obtain ⟨granularity, hgranularity, -, hgranularity'⟩ :=
    keeps_natural (Nat.le_refl 64) hgranularity
  obtain ⟨poll, hpoll, -, hpoll'⟩ := keeps_natural (Nat.le_refl 64) hpoll
  refine ⟨.ofFields [("granularity_s", some granularity), ("poll_interval_s", some poll)],
    Json.rereads_record ?_, trivial, ?_⟩
  · simp [hgranularity, hpoll]
  · rw [ofDocument?, fields?_ofFields]
    · simp [Fields.defaulted?, hgranularity', hpoll']
    · decide
    · rfl

theorem PeriodConfig.keeps (p : PeriodConfig) : Keeps ofDocument? p.document p := by
  refine ⟨p.document, Json.rereads_record ?_, trivial, ?_⟩
  · simp [Json.rereads_text]
  · rw [ofDocument?]
    simp [document, Document.fields?, fieldNames, Document.hasRepeated, Fields.required?,
      Fields.find?, Document.asText?]

theorem RangeConfig.keeps {r : RangeConfig Float} (hmin : KeepsDouble r.min)
    (hmax : KeepsDouble r.max) : Keeps ofDocument? r.document r := by
  obtain ⟨min, hmin, -, hmin'⟩ := hmin
  obtain ⟨max, hmax, -, hmax'⟩ := hmax
  refine ⟨.ofFields [("min", some min), ("max", some max)], Json.rereads_record ?_, trivial, ?_⟩
  · simp [hmin, hmax]
  · rw [ofDocument?, fields?_ofFields]
    · simp [Fields.required?, hmin', hmax']
    · decide
    · rfl

theorem PidConfig.keeps {c : PidConfig Float} (h : ∀ x ∈ c.numbers, KeepsDouble x) :
    Keeps ofDocument? c.document c := by
  simp only [numbers, List.forall_mem_append, List.forall_mem_cons, Option.mem_toList] at h
  obtain ⟨⟨⟨⟨p, hp, -, hp'⟩, ⟨i, hi, -, hi'⟩, ⟨d, hd, -, hd'⟩, ⟨limit, hlimit, -, hlimit'⟩, -⟩,
    hintegral⟩, hslope⟩ := h
  obtain ⟨integral, hintegral, hintegral'⟩ := keepsOptional hintegral
  obtain ⟨slope, hslope, hslope'⟩ := keepsOptional hslope
  refine ⟨.ofFields [("p", some p), ("i", some i), ("d", some d), ("limit", some limit),
    ("integral_span_s", integral), ("derivative_span_s", slope)], rereads_ofFields ?_, trivial, ?_⟩
  · simp [hp, hi, hd, hlimit, hintegral, hslope]
  · rw [ofDocument?, fields?_ofFields]
    · simp [Fields.required?, Fields.defaulted?, hp', hi', hd', hlimit', hintegral', hslope']
    · decide
    · rfl

theorem EconomizerConfig.keeps {e : EconomizerConfig Float} (h : ∀ x ∈ e.numbers, KeepsDouble x)
    (htimeout : e.timeoutSeconds < twoTo 64) : Keeps ofDocument? e.document e := by
  simp only [numbers, List.forall_mem_append, List.forall_mem_cons, List.mem_flatMap,
    Option.mem_toList] at h
  obtain ⟨⟨⟨delta, hdelta, -, hdelta'⟩, ⟨target, htarget, -, htarget'⟩,
    ⟨power, hpower, -, hpower'⟩, -⟩, hpid⟩ := h
  obtain ⟨mode, hmode, -, hmode'⟩ := e.mode.keeps
  obtain ⟨enabled, henabled, -, henabled'⟩ := keeps_bool e.enabled
  obtain ⟨hvac, hhvac, -, hhvac'⟩ := keeps_bool e.keepsHvacOn
  obtain ⟨timeout, htimeout, -, htimeout'⟩ := keeps_natural (Nat.le_refl 64) htimeout
  obtain ⟨pid, hpid, hpid'⟩ :=
    keepsOptional fun pid hmem => PidConfig.keeps fun x hx => hpid x ⟨pid, hmem, hx⟩
  refine ⟨.ofFields [("mode", some mode), ("changeover_delta", some delta),
    ("target_temperature", some target), ("enabled", some enabled), ("keep_hvac_on", some hvac),
    ("max_power", some power), ("pid", pid), ("timeout_s", some timeout)],
    rereads_ofFields ?_, trivial, ?_⟩
  · simp [hmode, hdelta, htarget, henabled, hhvac, hpower, hpid, htimeout]
  · rw [ofDocument?, fields?_ofFields]
    · simp [Fields.required?, Fields.defaulted?, hmode', hdelta', htarget', henabled', hhvac',
        hpower', hpid', htimeout']
    · decide
    · rfl

theorem ZoneConfig.keeps {z : ZoneConfig Float} (h : ∀ x ∈ z.numbers, KeepsDouble x)
    (hsized : z.IsSized) : Keeps ofDocument? z.document z := by
  simp only [numbers, List.forall_mem_append, List.forall_mem_cons, List.mem_flatMap,
    Option.mem_toList] at h
  obtain ⟨⟨⟨⟨setpoint, hsetpoint, -, hsetpoint'⟩, hmin, hmax, -⟩, hpid⟩, heconomizer⟩ := h
  obtain ⟨name, hname, -, hname'⟩ := keeps_text z.name
  obtain ⟨range, hrange, -, hrange'⟩ := RangeConfig.keeps hmin hmax
  obtain ⟨pid, hpid, -, hpid'⟩ := PidConfig.keeps hpid
  obtain ⟨enabled, henabled, -, henabled'⟩ := keeps_bool z.enabled
  obtain ⟨voting, hvoting, -, hvoting'⟩ := keeps_bool z.voting
  obtain ⟨priority, hpriority, -, hpriority'⟩ := keeps_integer32 hsized.dumpPriority
  obtain ⟨sensor, hsensor, -, hsensor'⟩ := SensorConfig.keeps hsized.sensor
  obtain ⟨economizer, heconomizer, heconomizer'⟩ := keepsOptional fun e hmem =>
    EconomizerConfig.keeps (fun x hx => heconomizer x ⟨e, hmem, hx⟩) (hsized.economizer e hmem)
  refine ⟨.ofFields [("name", some name), ("setpoint", some setpoint), ("range", some range),
    ("pid", some pid), ("enabled", some enabled), ("voting", some voting),
    ("dump_priority", some priority), ("sensor", some sensor), ("economizer", economizer)],
    rereads_ofFields ?_, trivial, ?_⟩
  · simp [hname, hsetpoint, hrange, hpid, henabled, hvoting, hpriority, hsensor, heconomizer]
  · rw [ofDocument?, fields?_ofFields]
    · simp [Fields.required?, Fields.defaulted?, hname', hsetpoint', hrange', hpid', henabled',
        hvoting', hpriority', hsensor', heconomizer']
    · decide
    · rfl

theorem SystemConfig.keeps {c : SystemConfig Float} (h : ∀ x ∈ c.numbers, KeepsDouble x)
    (hsized : c.IsSized) (hversion : c.version < twoTo 32) : Keeps ofDocument? c.document c := by
  obtain ⟨version, hversion, -, hversion'⟩ := keeps_natural (by decide) hversion
  obtain ⟨name, hname, -, hname'⟩ := keeps_text c.name
  obtain ⟨unit, hunit, -, hunit'⟩ := UnitConfig.keeps hsized.rateLimit
  obtain ⟨zones, hzones, -, hzones'⟩ := keeps_list c.zones fun z hz =>
    ZoneConfig.keeps (fun x hx => h x (List.mem_flatMap.mpr ⟨z, hz, hx⟩)) (hsized.zone z hz)
  obtain ⟨ambient, hambient, hambient'⟩ :=
    keepsOptional fun s hs => SensorConfig.keeps (hsized.ambient s hs)
  obtain ⟨scheduler, hscheduler, -, hscheduler'⟩ :=
    SchedulerConfig.keeps hsized.granularity hsized.poll
  obtain ⟨schedule, hschedule, -, hschedule'⟩ :=
    keeps_list c.schedule fun p _ => PeriodConfig.keeps p
  refine ⟨.ofFields [("version", some version), ("name", some name), ("unit", some unit),
    ("zones", some zones), ("ambient", ambient), ("scheduler", some scheduler),
    ("schedule", some schedule)], rereads_ofFields ?_, trivial, ?_⟩
  · simp [hversion, hname, hunit, hzones, hambient, hscheduler, hschedule]
  · rw [ofDocument?, fields?_ofFields]
    · simp [Fields.required?, Fields.defaulted?, hversion', hname', hunit', hzones', hambient',
        hscheduler', hschedule']
    · decide
    · rfl

/-! ## Texts -/

namespace SystemConfig

theorem version_le_of_check {c : SystemConfig Float} (h : c.check = .ok ()) :
    c.version ≤ latestVersion := by
  rw [check] at h
  split at h
  · cases h
  · rename_i hversion
    exact Nat.le_of_not_lt hversion

/-- What is read of a configuration that was written, before anything is asked of it. -/
theorem ofDocument?_render {c : SystemConfig Float} (hcheck : c.check = .ok ())
    (hsized : c.IsSized)
    (hnumbers : ∀ x ∈ c.numbers, x.isFinite = true → Document.RereadsDouble x) :
    (ConfigFormat.json.document? (ConfigFormat.json.render c)).bind ofDocument? = some c := by
  have hfinite : ∀ x ∈ c.numbers, x.isFinite = true := (isAccepted_of_check hcheck).isFinite
  have hversion : c.version < twoTo 32 :=
    Nat.lt_of_le_of_lt (version_le_of_check hcheck) (by decide)
  obtain ⟨d, hd, -, hread⟩ :=
    keeps (fun x hx => (hnumbers x hx (hfinite x hx)).keeps) hsized hversion
  have hdocument : ConfigFormat.json.document? (ConfigFormat.json.render c) = some d :=
    hd.read?_pretty 0
  rw [hdocument]
  exact hread

/-- A saved configuration is read back as it was, unless its version is before the first. -/
theorem read_of_write {c : SystemConfig Float} {text : String} (hsized : c.IsSized)
    (hnumbers : ∀ x ∈ c.numbers, x.isFinite = true → Document.RereadsDouble x)
    (h : ConfigFormat.json.write c = .ok text) :
    ConfigFormat.json.read text =
      if c.version < firstVersion then .error (.unknownVersion c.version) else .ok c := by
  obtain ⟨⟨⟩, hcheck, rfl⟩ := Outcome.of_map_eq_ok h
  rw [ConfigFormat.read, ofDocument?_render hcheck hsized hnumbers]
  dsimp only
  rw [ConfigFormat.accept, hcheck]
  split <;> rfl

/-- A lodge whose den has a window of ten minutes, and an economizer with gains of its own. -/
theorem read_of_write_lodge :
    let config := lodge (.gentle 1 0.01 0 (some 600)) (.gentle 1 0 0 none) 3 "22:00"
    config.IsSized ∧
      (∀ x ∈ config.numbers, x.isFinite = true → Document.RereadsDouble x) ∧
      ∃ text, ConfigFormat.json.write config = .ok text ∧
        ConfigFormat.json.read text = .ok config := by
  intro config
  have hcheck : Outcome.holds config.check (fun _ => true) = true := by decide +kernel
  obtain ⟨⟨⟩, hcheck, -⟩ := Outcome.exists_of_holds hcheck
  have hsized : config.IsSized := by
    refine ⟨by decide, fun z hz => ?_, fun s hs => ?_, by decide, by decide⟩
    · obtain rfl := List.mem_singleton.mp hz
      refine ⟨by decide, ⟨by decide, by decide⟩, fun e he => ?_⟩
      cases he
      decide
    · cases hs
      exact ⟨by decide, by decide⟩
  have hnumbers : ∀ x ∈ config.numbers, x.isFinite = true → Document.RereadsDouble x := by
    decide +kernel
  have hwrite : ConfigFormat.json.write config = .ok (ConfigFormat.json.render config) := by
    rw [ConfigFormat.write, hcheck]
    rfl
  exact ⟨hsized, hnumbers, _, hwrite, read_of_write hsized hnumbers hwrite⟩

/-- A house without zones, of a version before the first. -/
def relic : SystemConfig Float :=
  { version := 0, name := "old", unit := {}, zones := [], ambient := none, scheduler := {}
    schedule := [] }

/-- It is saved, and what was saved is refused. -/
theorem not_read_of_relic :
    relic.IsSized ∧ (∀ x ∈ relic.numbers, x.isFinite = true → Document.RereadsDouble x) ∧
      ∃ text, ConfigFormat.json.write relic = .ok text ∧
        ConfigFormat.json.read text = .error (.unknownVersion 0) := by
  have hsized : relic.IsSized :=
    ⟨by decide, fun z hz => (nomatch hz), fun s hs => (nomatch hs), by decide, by decide⟩
  have hnumbers : ∀ x ∈ relic.numbers, x.isFinite = true → Document.RereadsDouble x :=
    fun x hx => nomatch hx
  have hcheck : relic.check = .ok () := rfl
  refine ⟨hsized, hnumbers, ConfigFormat.json.render relic, ?_, ?_⟩
  · rw [ConfigFormat.write, hcheck]
    rfl
  · rw [ConfigFormat.read, ofDocument?_render hcheck hsized hnumbers]
    rfl

end SystemConfig

end HomeClimate
