import HomeClimate.House.Replay
import HomeClimate.Proofs.House.ChainRun
import HomeClimate.Proofs.Schedule.Zones
import HomeClimate.Proofs.Zone.Zones

/-!
# Replays from within

A replay does few things to its zones and to the unit's control, and it does them in
many places.

* The schedule and the sensors outside change zones, but each zone *retains* its
  name, its last verdict and its renderer, and its economizer gets calls at most
  (`Zones.Retain`).
* A change of the schedule has the last verdict of a zone shown again.
* A sample makes one zone give a status.

A property of replays is *framed* if it is about zones, control and commands only and
if the first takes it away from no replay, and *steady* if the second does not either.
What is steady is kept by all of a replay but the samples (`Steady.tick`,
`Framed.checkAmbient`), and if no sample takes it away either, it holds after every
run (`Steady.run`).

The samples that a reading brings about, reports of silence among them, all have its
time (`KeptBySamplesAt`).
-/

namespace HomeClimate

variable {ν : Type} [Scalar ν]

/-! ## The unit's control -/

/-- What a status does to the unit's control: nothing, if it is of no zone that is known, or else
it is recorded, and a demand of all statuses goes to the rate limiter. -/
theorem UnitControl.process_cases (u : UnitControl ν) (zones : Table String (ZoneSettings ν))
    (status : Signal (ZoneStatus ν)) :
    ((∀ name, status.source = some name → zones.has name = false) ∧
        u.process zones status = (u, none)) ∨
      ∃ name demand, status.source = some name ∧ zones.has name = true ∧
        demand.value? = some ⟨(u.arbiter.record name status).demand zones.values, none⟩ ∧
        u.process zones status =
          ({ u with arbiter := u.arbiter.record name status
                    limiter := (u.limiter.process demand).1 }, (u.limiter.process demand).2) := by
  rw [process, Arbiter.process]
  cases hs : status.source with
  | none => exact .inl ⟨fun name h => (nomatch h), rfl⟩
  | some name =>
      dsimp only
      by_cases hz : zones.has name = true
      · rw [if_pos hz]
        exact .inr ⟨name, _, rfl, hz, rfl, rfl⟩
      · rw [if_neg hz]
        refine .inl ⟨fun name' h => ?_, rfl⟩
        cases h
        simpa using hz

/-! ## What zones retain -/

/-- Between two states of a zone nothing happened to its name, to its last verdict, and to its
renderer, and its economizer got calls at most. -/
structure Zone.Retains (z z' : Zone ν) : Prop where
  name : z'.name = z.name
  lastVerdict : z'.lastVerdict = z.lastVerdict
  renderer : z'.thermostat.renderer = z.thermostat.renderer
  operates : z.Operates z'

namespace Zone

theorem Retains.refl (z : Zone ν) : z.Retains z := ⟨rfl, rfl, rfl, .refl z⟩

theorem Retains.trans {z z₁ z₂ : Zone ν} (h : z.Retains z₁) (h' : z₁.Retains z₂) : z.Retains z₂ :=
  ⟨h'.name.trans h.name, h'.lastVerdict.trans h.lastVerdict, h'.renderer.trans h.renderer,
    h.operates.trans h'.operates⟩

theorem Adjusts.retains {z z' : Zone ν} (h : z.Adjusts z') : z.Retains z' := by
  refine ⟨h.name, h.lastVerdict, ?_, h.operates⟩
  rcases h.thermostat with heq | ⟨setpoint, hset⟩
  · rw [heq]
  · exact (Thermostat.setSetpoint_rest hset).2

theorem retains_recordAmbient (z : Zone ν) (now : Instant) (reading : Signal ν) :
    z.Retains (z.recordAmbient now reading).1 := by
  have hoperates := z.operates_recordAmbient now reading
  rw [recordAmbient, withEconomizer_fst] at hoperates ⊢
  exact ⟨rfl, rfl, rfl, hoperates⟩

end Zone

namespace Zones

/-- Zones with the same names, each of which retained what a zone of its name had. -/
structure Retain (zones zones' : Zones ν) : Prop where
  keys : zones'.keys = zones.keys
  retains : ∀ e' ∈ zones', ∃ z, (e'.1, z) ∈ zones ∧ z.Retains e'.2

theorem Retain.of_related {zones zones' : Zones ν} (h : Table.Related Zone.Retains zones zones') :
    Retain zones zones' := by
  refine ⟨Table.Related.keys h, fun e' he' => ?_⟩
  obtain ⟨e, he, hname, hretains⟩ := Outcome.exists_of_mem_right h he'
  exact ⟨e.2, hname ▸ he, hretains⟩

/-- What is known of all zones and is about no more than what they retain. -/
theorem Retain.forall_zones {zones zones' : Zones ν} (h : Retain zones zones')
    {P : String → Zone ν → Prop} (hP : ∀ name z z', Zone.Retains z z' → P name z → P name z')
    (hzones : ∀ e ∈ zones, P e.1 e.2) : ∀ e ∈ zones', P e.1 e.2 := by
  intro e' he'
  obtain ⟨z, hz, hretains⟩ := h.retains e' he'
  exact hP e'.1 z e'.2 hretains (hzones _ hz)

theorem adjustable_retains (zones : Zones ν) (name : String) :
    Zone.Adjustable fun z' : Zone ν => ∃ z, (name, z) ∈ zones ∧ z.Retains z' := by
  rintro z₁ z₂ hadjusts ⟨z, hz, hretains⟩
  exact ⟨z, hz, hretains.trans hadjusts.retains⟩

theorem retains_refl (zones : Zones ν) : ∀ e ∈ zones, ∃ z, (e.1, z) ∈ zones ∧ z.Retains e.2 :=
  fun e he => ⟨e.2, he, .refl e.2⟩

theorem retain_tick (scheduler : Scheduler ν) (zones : Zones ν) (now : Instant) :
    Retain zones (scheduler.tick zones now).2.1 :=
  ⟨scheduler.keys_tick zones now,
    scheduler.forall_tick (adjustable_retains zones) (retains_refl zones) now⟩

theorem retain_update (scheduler : Scheduler ν) (zones : Zones ν) (now : Instant)
    (schedules : Table String (Schedule ν)) :
    Retain zones (scheduler.update zones now schedules).2.1 :=
  ⟨scheduler.keys_update zones now schedules,
    scheduler.forall_update (adjustable_retains zones) (retains_refl zones) now schedules⟩

end Zones

namespace Replay

theorem retain_ambientSample {r r' : Replay ν} {now : Instant} {sample : Signal ν}
    (h : r.ambientSample now sample = .ok r') :
    ∃ zones, Zones.Retain r.zones zones ∧ r' = { r with zones } := by
  obtain ⟨zones, hzones, h⟩ := Outcome.of_bind_eq_ok h
  cases h
  refine ⟨zones, Zones.Retain.of_related ?_, rfl⟩
  refine (Outcome.forall₂_of_mapM hzones).imp fun e e' he => ?_
  obtain ⟨⟨z, _⟩, hz, he⟩ := Outcome.of_bind_eq_ok he
  cases he
  obtain ⟨_, -, heq⟩ := Outcome.of_map_eq_ok hz
  cases heq
  exact ⟨rfl, e.2.retains_recordAmbient now (sample.attributed none)⟩

/-! ## Steady properties -/

/-- A property that is about zones, control and commands, and that is not lost when zones retain
what they have. -/
structure Framed (I : Replay ν → Prop) : Prop where
  frame : ∀ r r' : Replay ν, r'.zones = r.zones → r'.unit = r.unit → r'.commands = r.commands →
    I r → I r'
  retain : ∀ (r : Replay ν) (zones : Zones ν), Zones.Retain r.zones zones → I r → I { r with zones }

/-- A framed property that is not lost either when a last verdict is shown again. -/
structure Steady (I : Replay ν → Prop) : Prop extends Framed I where
  replayed : ∀ (r : Replay ν) (zone : String) (status : Signal (ZoneStatus ν)),
    r.replayed? zone = some status → I r → I (r.arbitrate status)

/-- A property that is not lost when a zone takes a sample. -/
def KeptBySamples (I : Replay ν → Prop) : Prop :=
  ∀ (r r' : Replay ν) (now : Instant) (name : String) (sample : Signal ν),
    r.zoneSample now name sample = .ok r' → I r → I r'

/-- A property that is not lost when a zone takes a sample of the time that the clock shows. -/
def KeptBySamplesAt (now : Instant) (I : Replay ν → Prop) : Prop :=
  ∀ (r r' : Replay ν) (name : String) (sample : Signal ν), sample.time = now →
    r.zoneSample now name sample = .ok r' → I r → I r'

variable {I : Replay ν → Prop}

theorem KeptBySamples.atTime (h : KeptBySamples I) (now : Instant) : KeptBySamplesAt now I :=
  fun r r' name sample _ => h r r' now name sample

namespace Framed

theorem setChain (hI : Framed I) {r : Replay ν} (chain : SensorChain ν) (h : I r) :
    I (r.setChain chain) :=
  hI.frame r _ rfl rfl rfl h

theorem ambientSample (hI : Framed I) {r r' : Replay ν} {now : Instant} {sample : Signal ν}
    (hsample : r.ambientSample now sample = .ok r') (h : I r) : I r' := by
  obtain ⟨zones, hretain, rfl⟩ := retain_ambientSample hsample
  exact hI.retain r zones hretain h

theorem checkAmbient (hI : Framed I) {r r' : Replay ν} {now : Instant}
    (hcheck : r.checkAmbient now = .ok r') (h : I r) : I r' := by
  unfold Replay.checkAmbient at hcheck
  split at hcheck
  · cases hcheck
    exact h
  · cases hcheck
    exact hI.frame r _ rfl rfl rfl h
  · exact hI.ambientSample hcheck (hI.frame r _ rfl rfl rfl h)

theorem checkChain (hI : Framed I) {r r' : Replay ν} {now : Instant}
    (hsample : KeptBySamplesAt now I) {chain : SensorChain ν}
    (hcheck : Replay.checkChain now r chain = .ok r') (h : I r) : I r' := by
  unfold Replay.checkChain at hcheck
  split at hcheck
  · cases hcheck
    exact hI.setChain _ h
  · rename_i chain' report hreport
    have htime : report.time = now := SensorChain.time_of_check hreport
    exact hsample _ _ _ _ htime hcheck (hI.setChain _ h)

theorem checkAll (hI : Framed I) {r r' : Replay ν} {now : Instant}
    (hsample : KeptBySamplesAt now I) (hcheck : r.checkAll now = .ok r') (h : I r) : I r' := by
  obtain ⟨r₁, hchains, hambient⟩ := Outcome.of_bind_eq_ok hcheck
  have hchecked := Outcome.foldlM_invariant
    (fun _ _ _ _ h hcheck => hI.checkChain hsample hcheck h) hchains h
  exact hI.checkAmbient hambient hchecked

theorem route (hI : Framed I) {r r' : Replay ν} {reading : Reading ν}
    (hsample : KeptBySamplesAt reading.time I) (hroute : r.route reading = .ok r') (h : I r) :
    I r' := by
  unfold Replay.route at hroute
  split at hroute
  · split at hroute
    · cases hroute
      exact hI.setChain _ h
    · rename_i chain' sample hprocess
      have htime : sample.time = reading.time :=
        (SensorChain.time_of_process hprocess).trans reading.time_signal
      exact hsample _ _ _ _ htime hroute (hI.setChain _ h)
  · split at hroute
    · cases hroute
      exact hI.frame r _ rfl rfl rfl h
    · exact hI.ambientSample hroute (hI.frame r _ rfl rfl rfl h)
  · cases hroute
    exact hI.frame r _ rfl rfl rfl h

end Framed

namespace Steady

theorem announceAll (hI : Steady I) {r : Replay ν} (events : List (ScheduleEvent ν)) (h : I r) :
    I (r.announceAll events) := by
  induction events generalizing r with
  | nil => exact h
  | cons event rest ih =>
      have hevent : I { r with events := r.events ++ [event] } := hI.frame r _ rfl rfl rfl h
      refine ih ?_
      unfold announce
      dsimp only
      split
      · rename_i status hstatus
        exact hI.replayed _ event.zone status hstatus hevent
      · exact hevent

theorem tick (hI : Steady I) {r : Replay ν} (now : Instant) (h : I r) : I (r.tick now) := by
  have hzones := hI.retain r _ (Zones.retain_tick r.scheduler r.zones now) h
  exact hI.announceAll _
    (hI.frame { r with zones := (r.scheduler.tick r.zones now).2.1 } _ rfl rfl rfl hzones)

/-- A steady property that no sample of its time takes away is kept by a reading. -/
theorem step (hI : Steady I) {r r' : Replay ν} {reading : Reading ν}
    (hsample : KeptBySamplesAt reading.time I) (hstep : r.step reading = .ok r') (h : I r) :
    I r' := by
  obtain ⟨r₁, hcheck, hroute⟩ := Outcome.of_bind_eq_ok hstep
  have hcounted : I { r with readings := r.readings + 1 } := hI.frame r _ rfl rfl rfl h
  exact hI.route hsample hroute (hI.checkAll hsample hcheck (hI.tick reading.time hcounted))

/-- A steady property that no sample takes away is kept by every run. -/
theorem run (hI : Steady I) (hsample : KeptBySamples I) {r r' : Replay ν}
    {readings : List (Reading ν)} (hrun : r.run readings = .ok r') (h : I r) : I r' :=
  Outcome.foldlM_invariant
    (fun _ _ reading _ h hstep => hI.step (hsample.atTime reading.time) hstep h) hrun h

end Steady

/-! ## The start -/

/-- A house to which nothing has happened. -/
def opening (config : SystemConfig ν) (zones : Zones ν) (chains : List (SensorChain ν))
    (ambient : Option (SensorChain ν)) (scheduler : Scheduler ν) : Replay ν :=
  { zones, chains, ambient, scheduler, unit := .ofConfig config.unit
    commands := [], events := [], readings := 0, unrouted := 0 }

/-- A zone and a chain as a configuration of a zone describes them. -/
structure IsBuilt (z : ZoneConfig ν) (built : Zone ν × SensorChain ν) : Prop where
  zone : built.1.IsNew z.name
  chain : SensorChain.create z.name z.sensor = .ok built.2

/-- A house that a configuration makes: its zones were built and put under their names, the chain
outside was set up, and then the schedule was applied. -/
theorem create_eq_ok {config : SystemConfig ν} {now : Instant} {r : Replay ν}
    (h : create config now = .ok r) :
    ∃ built zones zones' ambient scheduler events, List.Forall₂ IsBuilt config.zones built ∧
      Zones.create (built.map Prod.fst) = .ok zones ∧ Zones.Retain zones zones' ∧
      List.Forall₂ (fun s c => SensorChain.create "ambient" s = .ok c) config.ambient.toList
        ambient.toList ∧
      r = (opening config zones' (built.map Prod.snd) ambient scheduler).announceAll events := by
  obtain ⟨built, hbuilt, h⟩ := Outcome.of_bind_eq_ok h
  obtain ⟨ambient, hambient, h⟩ := Outcome.of_bind_eq_ok h
  obtain ⟨scheduler, -, h⟩ := Outcome.of_bind_eq_ok h
  obtain ⟨zones, hzones, h⟩ := Outcome.of_bind_eq_ok h
  obtain ⟨schedules, -, h⟩ := Outcome.of_bind_eq_ok h
  cases h
  refine ⟨built, zones, _, ambient, _, _, ?_, Outcome.of_mapError_eq_ok hzones,
    Zones.retain_update scheduler zones now schedules, Outcome.forall₂_of_optionMapM hambient, rfl⟩
  refine (Outcome.forall₂_of_mapM hbuilt).imp fun z b hb => ?_
  obtain ⟨zone, hzone, hb⟩ := Outcome.of_bind_eq_ok hb
  obtain ⟨chain, hchain, hb⟩ := Outcome.of_bind_eq_ok hb
  cases hb
  exact ⟨ZoneConfig.isNew_build hzone, hchain⟩

end Replay

/-! ## Replays of a configuration -/

/-- A replay of an accepted configuration over some readings has come so far that some of them, in
the order of their times, are done. -/
structure SystemConfig.ReplaysTo (config : SystemConfig ν) (readings done : List (Reading ν))
    (r : Replay ν) : Prop where
  accepted : config.validate = .ok ()
  isPrefix : done <+: Reading.sorted readings
  reached : ∃ first house, (Reading.sorted readings).head? = some first ∧
    Replay.create config first.time = .ok house ∧ house.run done = .ok r

/-- A replay over readings that are in order is there if it passes a test. -/
theorem SystemConfig.exists_replaysTo (config : SystemConfig ν) (first : Reading ν)
    (rest : List (Reading ν)) (test : Replay ν → Bool) (haccepted : config.validate = .ok ())
    (hsorted : Reading.sorted (first :: rest) = first :: rest)
    (htest : (Outcome.holds (Replay.create config first.time) fun house =>
      Outcome.holds (house.run (first :: rest)) test) = true) :
    ∃ r, config.ReplaysTo (first :: rest) (first :: rest) r ∧ test r = true := by
  obtain ⟨house, hhouse, htest⟩ := Outcome.exists_of_holds htest
  obtain ⟨r, hrun, htest⟩ := Outcome.exists_of_holds htest
  refine ⟨r, ⟨haccepted, ?_, first, house, ?_, hhouse, hrun⟩, htest⟩
  · exact hsorted.symm ▸ List.prefix_refl (first :: rest)
  · rw [hsorted]
    rfl

/-- A replay that reports has come all the way, and its report is that of the house it came to. -/
theorem SystemConfig.replaysTo_of_replay {config : SystemConfig ν} {readings : List (Reading ν)}
    {report : ReplayReport ν} (h : config.replay readings = .ok report) (hsome : readings ≠ []) :
    ∃ r, config.ReplaysTo readings (Reading.sorted readings) r ∧ report = r.report := by
  obtain ⟨_, haccepted, h⟩ := Outcome.of_bind_eq_ok h
  cases hsorted : Reading.sorted readings with
  | nil =>
      have hperm := List.mergeSort_perm readings fun a b => decide (a.time ≤ b.time)
      rw [Reading.sorted] at hsorted
      rw [hsorted] at hperm
      exact absurd hperm.symm.eq_nil hsome
  | cons first rest =>
      rw [hsorted] at h
      obtain ⟨house, hhouse, h⟩ := Outcome.of_bind_eq_ok h
      obtain ⟨r, hr, h⟩ := Outcome.of_bind_eq_ok h
      cases h
      refine ⟨r, ⟨haccepted, ?_, first, house, ?_, hhouse, Outcome.of_mapError_eq_ok hr⟩, rfl⟩
      · exact hsorted.symm ▸ List.prefix_refl (first :: rest)
      · rw [hsorted]
        rfl

/-- A replay that has come all the way is the one that is reported. -/
theorem SystemConfig.ReplaysTo.replay_eq {config : SystemConfig ν} {readings : List (Reading ν)}
    {r : Replay ν} (h : config.ReplaysTo readings (Reading.sorted readings) r) :
    config.replay readings = .ok r.report := by
  obtain ⟨first, house, hfirst, hhouse, hrun⟩ := h.reached
  rw [replay, h.accepted]
  cases hsorted : Reading.sorted readings with
  | nil =>
      rw [hsorted] at hfirst
      cases hfirst
  | cons head rest =>
      rw [hsorted] at hfirst hrun
      cases hfirst
      simp only [hhouse, hrun, HouseError.ofFault, Except.mapError, pure, Except.pure, bind,
        Except.bind]

end HomeClimate
