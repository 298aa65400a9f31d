import HomeClimate.Proofs.House.Coverage
import HomeClimate.Proofs.House.Undisturbed

/-!
# The way of readings

An accepted configuration names every source once.  So the house has one chain for each source,
and a reading has that chain to go to, or none.

* At a reading every chain is asked about silence, and then the chain that has its source takes it
  (`SensorChain.hear`).  What else a replay does, to look at the schedule, to let zones and
  economizers have samples, changes no chain (`Replay.SameWays`).
* So all chains are at any time what they come to by themselves if they hear all readings and take
  their own (`Replay.sameWays_run`).  A chain takes no reading that it does not know: it remembers
  the last one of each of its sources.
* A house looks for the chain of a source among its chains.  It could as well have a table from
  sources to chains (`SystemConfig.routes`), in which a source that is entered twice belongs to the
  last chain, since no source is.

`SystemConfig.distributes_of_replay` says this of every replay that succeeds, with the two counts
of its report.
-/

namespace HomeClimate

variable {ν : Type} [Scalar ν]

/-! ## One chain -/

namespace SensorChain

/-- The chain after a reading was held out to it, which it takes if it has its source. -/
def take (c : SensorChain ν) (reading : Reading ν) : SensorChain ν :=
  if c.sources.contains reading.source then (c.process reading.signal).1 else c

/-- The chain after a reading of the house, from whatever source. -/
def hear (c : SensorChain ν) (reading : Reading ν) : SensorChain ν :=
  (c.check reading.time).1.take reading

/-- The chain after readings of the house. -/
def hearAll (c : SensorChain ν) (readings : List (Reading ν)) : SensorChain ν :=
  readings.foldl hear c

theorem take_of_mem {c : SensorChain ν} {reading : Reading ν} (h : reading.source ∈ c.sources) :
    c.take reading = (c.process reading.signal).1 := if_pos (List.contains_iff_mem.mpr h)

theorem take_of_not_mem {c : SensorChain ν} {reading : Reading ν}
    (h : reading.source ∉ c.sources) : c.take reading = c :=
  if_neg fun hmem => h (List.contains_iff_mem.mp hmem)

theorem label_take (c : SensorChain ν) (reading : Reading ν) : (c.take reading).label = c.label := by
  rw [take]
  split
  · exact c.label_process reading.signal
  · rfl

theorem label_hear (c : SensorChain ν) (reading : Reading ν) : (c.hear reading).label = c.label :=
  ((c.check reading.time).1.label_take reading).trans (c.label_check reading.time)

theorem label_hearAll (c : SensorChain ν) (readings : List (Reading ν)) :
    (c.hearAll readings).label = c.label := by
  induction readings generalizing c with
  | nil => rfl
  | cons reading rest ih => exact (ih (c.hear reading)).trans (c.label_hear reading)

theorem remembers_create {name : String} {config : SensorConfig} {c : SensorChain ν}
    (h : create name config = .ok c) : c.fallback.Remembers config.sources [] := by
  obtain ⟨fallback, hfallback, h⟩ := Outcome.of_bind_eq_ok h
  obtain ⟨_, -, h⟩ := Outcome.of_bind_eq_ok h
  obtain ⟨_, -, h⟩ := Outcome.of_bind_eq_ok h
  cases h
  exact Fallback.remembers_create (Outcome.of_mapError_eq_ok hfallback)

/-- A chain that hears a reading knows the last one of each of its sources. -/
theorem remembers_hear {c : SensorChain ν} {sources : List String} {signals : List (Signal ν)}
    (h : c.fallback.Remembers sources signals) (reading : Reading ν) :
    (c.hear reading).fallback.Remembers sources (signals ++ [reading.signal]) := by
  have hchecked : (c.check reading.time).1.fallback.Remembers sources signals := h
  by_cases hmem : reading.source ∈ (c.check reading.time).1.sources
  · rw [hear, take_of_mem hmem, fallback_process]
    exact hchecked.process reading.signal
  · rw [hear, take_of_not_mem hmem]
    refine hchecked.skip fun source hsource heq => hmem ?_
    rw [reading.source_signal, Option.some.injEq] at heq
    have hsources : (c.check reading.time).1.sources = sources := hchecked.sources_eq
    rwa [hsources, heq]

theorem remembers_hearAll {c : SensorChain ν} {sources : List String} {signals : List (Signal ν)}
    (h : c.fallback.Remembers sources signals) (readings : List (Reading ν)) :
    (c.hearAll readings).fallback.Remembers sources (signals ++ readings.map Reading.signal) := by
  induction readings generalizing c signals with
  | nil =>
      rw [List.map_nil, List.append_nil]
      exact h
  | cons reading rest ih =>
      have hrest := ih (remembers_hear h reading)
      rwa [List.append_assoc] at hrest

end SensorChain

/-! ## All chains -/

namespace Replay

/-- Between two states of a replay nothing happened to its chains and its counts. -/
structure SameWays (r r' : Replay ν) : Prop where
  chains : r'.chains = r.chains
  ambient : r'.ambient = r.ambient
  readings : r'.readings = r.readings
  unrouted : r'.unrouted = r.unrouted

/-- The sources of all chains. -/
def sources (r : Replay ν) : List String := (r.chains ++ r.ambient.toList).flatMap SensorChain.sources

/-- The replay with a reading held out to all its chains, and counted if none of them takes it. -/
def offered (r : Replay ν) (reading : Reading ν) : Replay ν :=
  { r with
    chains := r.chains.map fun c => c.take reading
    ambient := r.ambient.map fun c => c.take reading
    unrouted := r.unrouted + if r.sources.contains reading.source then 0 else 1 }

/-- The replay with some readings heard by all its chains, and those counted that none of them
takes. -/
def heard (r : Replay ν) (readings : List (Reading ν)) : Replay ν :=
  { r with
    chains := r.chains.map fun c => c.hearAll readings
    ambient := r.ambient.map fun c => c.hearAll readings
    readings := r.readings + readings.length
    unrouted := r.unrouted + readings.countP fun reading => !r.sources.contains reading.source }

variable {r r' : Replay ν} {now : Instant}

omit [Scalar ν] in
theorem SameWays.trans {r'' : Replay ν} (h : r.SameWays r') (h' : r'.SameWays r'') :
    r.SameWays r'' :=
  ⟨h'.chains.trans h.chains, h'.ambient.trans h.ambient, h'.readings.trans h.readings,
    h'.unrouted.trans h.unrouted⟩

theorem sameWays_announceAll (r : Replay ν) (events : List (ScheduleEvent ν)) :
    r.SameWays (r.announceAll events) := by
  induction events generalizing r with
  | nil => exact ⟨rfl, rfl, rfl, rfl⟩
  | cons event rest ih =>
      refine SameWays.trans ?_ (ih (r.announce event))
      rw [announce]
      split
      · exact ⟨rfl, rfl, rfl, rfl⟩
      · exact ⟨rfl, rfl, rfl, rfl⟩

theorem sameWays_tick (r : Replay ν) (now : Instant) : r.SameWays (r.tick now) := by
  obtain ⟨hchains, hambient, hreadings, hunrouted⟩ := sameWays_announceAll
    { r with scheduler := (r.scheduler.tick r.zones now).1
             zones := (r.scheduler.tick r.zones now).2.1 } (r.scheduler.tick r.zones now).2.2
  exact ⟨hchains, hambient, hreadings, hunrouted⟩

theorem sameWays_zoneSample {name : String} {sample : Signal ν}
    (h : r.zoneSample now name sample = .ok r') : r.SameWays r' := by
  rw [zoneSample] at h
  split at h
  · cases h
    exact ⟨rfl, rfl, rfl, rfl⟩
  · obtain ⟨⟨z, status⟩, -, rfl⟩ := Outcome.of_map_eq_ok h
    exact ⟨rfl, rfl, rfl, rfl⟩

theorem sameWays_ambientSample {sample : Signal ν} (h : r.ambientSample now sample = .ok r') :
    r.SameWays r' := by
  obtain ⟨zones, -, rfl⟩ := retain_ambientSample h
  exact ⟨rfl, rfl, rfl, rfl⟩

theorem sameWays_deliver {chain : SensorChain ν} {out : Option (Signal ν)}
    (h : r.deliver now chain out = .ok r') : (r.setChain chain).SameWays r' := by
  cases out with
  | none =>
      cases h
      exact ⟨rfl, rfl, rfl, rfl⟩
  | some sample => exact sameWays_zoneSample h

/-! ### Silence -/

/-- All chains of zones are asked, each of which takes the place of itself alone. -/
theorem sameWays_checkChains {done todo : List (SensorChain ν)} (hchains : r.chains = done ++ todo)
    (hnames : (r.chains.map SensorChain.name).Nodup)
    (h : todo.foldlM (checkChain now) r = .ok r') :
    SameWays { r with chains := done ++ todo.map fun c => (c.check now).1 } r' := by
  -- a chain is put back where it was, since no other one has its name
  induction todo generalizing r done with
  | nil =>
      cases h
      exact ⟨hchains, rfl, rfl, rfl⟩
  | cons c todo ih =>
      rw [List.foldlM_cons] at h
      obtain ⟨r₁, hown, hrest⟩ := Outcome.of_bind_eq_ok h
      rw [checkChain_eq] at hown
      have hname : (c.check now).1.name = c.name := congrArg Prod.fst (c.label_check now)
      have hset := sameWays_deliver hown
      rw [setChain_eq hchains hnames hname] at hset
      have hchains' : r₁.chains = (done ++ [(c.check now).1]) ++ todo := by
        rw [hset.chains, List.append_assoc]
        rfl
      have hnames' : (r₁.chains.map SensorChain.name).Nodup := by
        rw [hchains, List.map_append, List.map_cons, ← hname] at hnames
        rw [hset.chains, List.map_append, List.map_cons]
        exact hnames
      have htodo := ih hchains' hnames' hrest
      refine ⟨?_, htodo.ambient.trans hset.ambient, htodo.readings.trans hset.readings,
        htodo.unrouted.trans hset.unrouted⟩
      rw [htodo.chains, List.map_cons, List.append_assoc]
      rfl

theorem sameWays_checkAll (h : r.IsApart) (hcheck : r.checkAll now = .ok r') :
    (r.noted now).SameWays r' := by
  obtain ⟨r₁, hchains, hambient⟩ := Outcome.of_bind_eq_ok hcheck
  have hall : r.chains = [] ++ r.chains := rfl
  have hinside := sameWays_checkChains hall h.names hchains
  rw [checkAmbient, hinside.ambient] at hambient
  cases ha : r.ambient with
  | none =>
      simp only [ha, Option.map_none] at hambient hinside
      cases hambient
      exact ⟨hinside.chains, by rw [hinside.ambient, noted, ha]; rfl, hinside.readings,
        hinside.unrouted⟩
  | some c =>
      simp only [ha, Option.map_some] at hambient
      cases hc : c.check now with
      | mk c' report =>
          rw [hc] at hambient
          have hnoted : (r.noted now).ambient = some c' := by rw [noted, ha, Option.map_some, hc]
          cases report with
          | none =>
              cases hambient
              exact ⟨hinside.chains, hnoted.symm, hinside.readings, hinside.unrouted⟩
          | some report =>
              have houtside := sameWays_ambientSample hambient
              exact ⟨houtside.chains.trans hinside.chains, houtside.ambient.trans hnoted.symm,
                houtside.readings.trans hinside.readings, houtside.unrouted.trans hinside.unrouted⟩

/-! ### The reading -/

theorem take_all {reading : Reading ν} {chains : List (SensorChain ν)}
    (h : ∀ k ∈ chains, reading.source ∉ k.sources) :
    (chains.map fun c => c.take reading) = chains :=
  (List.map_congr_left fun k hk => SensorChain.take_of_not_mem (h k hk)).trans (List.map_id chains)

theorem take_outside {reading : Reading ν} {ambient : Option (SensorChain ν)}
    (h : ∀ k ∈ ambient.toList, reading.source ∉ k.sources) :
    (ambient.map fun c => c.take reading) = ambient := by
  cases ambient with
  | none => rfl
  | some c => exact congrArg some (SensorChain.take_of_not_mem (h c List.mem_cons_self))

omit [Scalar ν] in
theorem mem_sources_of_mem {source : String} {c : SensorChain ν}
    (hc : c ∈ r.chains ++ r.ambient.toList) (h : source ∈ c.sources) : source ∈ r.sources :=
  List.mem_flatMap.mpr ⟨c, hc, h⟩

/-- A reading is held out to all chains, and the one that has its source takes it. -/
theorem sameWays_route (h : r.IsApart) {reading : Reading ν} (hroute : r.route reading = .ok r') :
    (r.offered reading).SameWays r' := by
  cases h.route reading with
  | chain before after c split known others way =>
      rw [way] at hroute
      have hset := sameWays_deliver hroute
      rw [setChain_eq split h.names (congrArg Prod.fst (c.label_process reading.signal))] at hset
      have hknown : reading.source ∈ r.sources := mem_sources_of_mem
        (List.mem_append_left _ (split ▸ List.mem_append_right _ List.mem_cons_self)) known
      refine ⟨?_, ?_, hset.readings, ?_⟩
      · have hbefore := take_all fun k hk =>
          others k (List.mem_append_left _ (List.mem_append_left _ hk))
        have hafter := take_all fun k hk =>
          others k (List.mem_append_left _ (List.mem_append_right _ hk))
        rw [hset.chains, offered, split, List.map_append, List.map_cons, hbefore, hafter,
          SensorChain.take_of_mem known]
      · have houtside := take_outside fun k hk => others k (List.mem_append_right _ hk)
        exact hset.ambient.trans houtside.symm
      · rw [offered, if_pos (List.contains_iff_mem.mpr hknown)]
        exact hset.unrouted
  | ambient c outside known others way =>
      rw [way] at hroute
      have hknown : reading.source ∈ r.sources := mem_sources_of_mem
        (List.mem_append_right _ (Option.mem_toList.mpr outside)) known
      have htaken : (r.ambient.map fun c => c.take reading) =
          some (c.process reading.signal).1 := by
        rw [outside, Option.map_some, SensorChain.take_of_mem known]
      have hoffered : r.offered reading =
          { r with ambient := some (c.process reading.signal).1 } := by
        rw [offered, take_all others, htaken, if_pos (List.contains_iff_mem.mpr hknown)]
        rfl
      rw [hoffered]
      split at hroute
      · cases hroute
        exact ⟨rfl, rfl, rfl, rfl⟩
      · exact sameWays_ambientSample hroute
  | nowhere others way =>
      rw [way] at hroute
      cases hroute
      have hunknown : ¬ r.sources.contains reading.source = true := by
        rw [List.contains_iff_mem, sources, List.mem_flatMap]
        rintro ⟨k, hk, hsource⟩
        exact others k hk hsource
      refine ⟨?_, ?_, rfl, ?_⟩
      · exact (take_all fun k hk => others k (List.mem_append_left _ hk)).symm
      · exact (take_outside fun k hk => others k (List.mem_append_right _ hk)).symm
      · rw [offered, if_neg hunknown]

/-! ### Runs -/

omit [Scalar ν] in
theorem sources_eq_of_labels
    (hchains : r'.chains.map SensorChain.label = r.chains.map SensorChain.label)
    (hambient : r'.ambient.map SensorChain.label = r.ambient.map SensorChain.label) :
    r'.sources = r.sources := by
  rw [sources, sources, List.flatMap_def, List.flatMap_def, sources_of_labels hchains hambient]

omit [Scalar ν] in
theorem SameWays.isApart (h : r.SameWays r') (hapart : r.IsApart) : r'.IsApart :=
  hapart.of_labels (congrArg _ h.chains) (congrArg _ h.ambient)

omit [Scalar ν] in
/-- What all chains become, if they stay what they are known by. -/
theorem labels_map (f : SensorChain ν → SensorChain ν) (hf : ∀ c, (f c).label = c.label)
    (hchains : r'.chains = r.chains.map f) (hambient : r'.ambient = r.ambient.map f) :
    r'.chains.map SensorChain.label = r.chains.map SensorChain.label ∧
      r'.ambient.map SensorChain.label = r.ambient.map SensorChain.label := by
  rw [hchains, hambient, List.map_map, Option.map_map]
  exact ⟨List.map_congr_left fun c _ => hf c, Option.map_congr fun c _ => hf c⟩

/-- At a reading all chains hear it. -/
theorem sameWays_step (h : r.IsApart) {reading : Reading ν} (hstep : r.step reading = .ok r') :
    (r.heard [reading]).SameWays r' := by
  obtain ⟨r₁, hcheck, hroute⟩ := Outcome.of_bind_eq_ok hstep
  -- the schedule comes first, which changes no chain, then silence, and then the reading
  obtain ⟨hchains, hambient, hreadings, hunrouted⟩ :=
    sameWays_tick { r with readings := r.readings + 1 } reading.time
  have hchecked := sameWays_checkAll
    (h.of_labels (congrArg _ hchains) (congrArg _ hambient)) hcheck
  have hasked : r₁.chains = r.chains.map fun c => (c.check reading.time).1 := by
    rw [hchecked.chains, noted, hchains]
  have hasked' : r₁.ambient = r.ambient.map fun c => (c.check reading.time).1 := by
    rw [hchecked.ambient, noted, hambient]
  obtain ⟨hlabels, hlabels'⟩ := labels_map _ (fun c => c.label_check reading.time) hasked hasked'
  have htaken := sameWays_route (h.of_labels hlabels hlabels') hroute
  refine ⟨?_, ?_, ?_, ?_⟩
  · rw [htaken.chains, offered, hasked, List.map_map]
    rfl
  · rw [htaken.ambient, offered, hasked', Option.map_map]
    rfl
  · rw [htaken.readings]
    exact hchecked.readings.trans hreadings
  · rw [htaken.unrouted, offered, sources_eq_of_labels hlabels hlabels', hchecked.unrouted, heard,
      List.countP_singleton]
    dsimp only [noted]
    rw [hunrouted]
    cases r.sources.contains reading.source with
    | true => rfl
    | false => rfl

/-- In a run all chains hear all readings. -/
theorem sameWays_run {readings : List (Reading ν)} (h : r.IsApart)
    (hrun : r.run readings = .ok r') : (r.heard readings).SameWays r' := by
  induction readings generalizing r with
  | nil =>
      cases hrun
      exact ⟨(List.map_id _).symm, Option.map_id'.symm, rfl, rfl⟩
  | cons reading rest ih =>
      rw [Replay.run, List.foldlM_cons] at hrun
      obtain ⟨r₁, hstep, hrest⟩ := Outcome.of_bind_eq_ok hrun
      have hone := sameWays_step h hstep
      obtain ⟨hlabels, hlabels'⟩ :=
        labels_map _ (fun c => c.label_hear reading) hone.chains hone.ambient
      obtain ⟨hchains, hambient, hreadings, hunrouted⟩ := ih (h.of_labels hlabels hlabels') hrest
      refine ⟨?_, ?_, ?_, ?_⟩
      · rw [hchains, heard, hone.chains, heard, List.map_map]
        rfl
      · rw [hambient, heard, hone.ambient, heard, Option.map_map]
        rfl
      · have hfirst : r₁.readings = r.readings + 1 := hone.readings
        have hthen : r'.readings = r₁.readings + rest.length := hreadings
        show r'.readings = r.readings + (rest.length + 1)
        omega
      · have hfirst : r₁.unrouted = r.unrouted +
            [reading].countP fun reading => !r.sources.contains reading.source := hone.unrouted
        have hthen : r'.unrouted = r₁.unrouted +
            rest.countP fun reading => !r₁.sources.contains reading.source := hunrouted
        rw [hthen, hfirst, sources_eq_of_labels hlabels hlabels', Nat.add_assoc,
          ← List.countP_append]
        rfl

end Replay

/-! ## The table of sources -/

namespace SystemConfig

omit [Scalar ν]

/-- The sources of all chains. -/
def sources (config : SystemConfig ν) : List String := config.sensors.flatMap SensorConfig.sources

/-- The sources of zones with the places of the zones, which are counted from a number on. -/
def routesFrom (zones : List (ZoneConfig ν)) (first : Nat) : List (String × Nat) :=
  (zones.zipIdx first).flatMap fun (z, place) => z.sensor.sources.map fun source => (source, place)

/-- Which zone a source belongs to, by its place.  Of two zones with one source the last counts. -/
def routes (config : SystemConfig ν) : Table String Nat := Table.ofList (routesFrom config.zones 0)

theorem routesFrom_cons (z : ZoneConfig ν) (zones : List (ZoneConfig ν)) (first : Nat) :
    routesFrom (z :: zones) first =
      (z.sensor.sources.map fun source => (source, first)) ++ routesFrom zones (first + 1) := rfl

theorem keys_routesFrom (zones : List (ZoneConfig ν)) (first : Nat) :
    Table.keys (routesFrom zones first) = zones.flatMap fun z => z.sensor.sources := by
  induction zones generalizing first with
  | nil => rfl
  | cons z zones ih =>
      rw [routesFrom_cons, Table.keys, List.map_append, List.map_map, List.flatMap_cons]
      exact congrArg₂ _ (List.map_id _) (ih (first + 1))

theorem get?_routesFrom (zones : List (ZoneConfig ν)) (first : Nat) (source : String) :
    Table.get? (routesFrom zones first) source =
      (zones.findIdx? fun z => z.sensor.sources.contains source).map (· + first) := by
  induction zones generalizing first with
  | nil => rfl
  | cons z zones ih =>
      rw [routesFrom_cons, Table.get?_append, Table.get?_map_const, ih, List.findIdx?_cons]
      cases z.sensor.sources.contains source with
      | true => simp
      | false =>
          simp only [Bool.false_eq_true, if_false, Option.none_or, Option.map_map]
          exact Option.map_congr fun place _ => by simp only [Function.comp_apply]; omega

/-- Where no source comes twice, the table has the one zone that a source belongs to. -/
theorem get?_routes {config : SystemConfig ν} (h : config.IsDistinct) (source : String) :
    config.routes.get? source =
      config.zones.findIdx? fun z => z.sensor.sources.contains source := by
  have hnodup : (Table.keys (routesFrom config.zones 0)).Nodup := by
    have hsources := h.sources
    rw [sensors, List.flatMap_append, List.flatMap_map] at hsources
    rw [keys_routesFrom]
    exact (List.nodup_append.mp hsources).1
  rw [routes, Table.ofList, Table.get?_insertAll hnodup, get?_routesFrom]
  simp [Table.get?]

/-- Where no source comes twice, each belongs to the sensors of one place. -/
theorem countP_eq_one {sensors : List SensorConfig}
    (h : (sensors.flatMap SensorConfig.sources).Nodup) {source : String}
    (hmem : source ∈ sensors.flatMap SensorConfig.sources) :
    (sensors.countP fun s => s.sources.contains source) = 1 := by
  induction sensors with
  | nil => cases hmem
  | cons s rest ih =>
      rw [List.flatMap_cons, List.nodup_append] at h
      obtain ⟨-, hrest, hdisjoint⟩ := h
      rw [List.flatMap_cons, List.mem_append] at hmem
      rw [List.countP_cons]
      by_cases hs : source ∈ s.sources
      · have hnone : (rest.countP fun s => s.sources.contains source) = 0 := by
          refine List.countP_eq_zero.mpr fun s' hs' hsource => ?_
          have hmem' := List.mem_flatMap.mpr ⟨s', hs', List.contains_iff_mem.mp hsource⟩
          exact hdisjoint source hs source hmem' rfl
        rw [hnone, if_pos (List.contains_iff_mem.mpr hs)]
      · rw [ih hrest (hmem.resolve_left hs),
          if_neg fun hsource => hs (List.contains_iff_mem.mp hsource)]

/-- What the chains of a configuration measure for, and their sensors. -/
def places (config : SystemConfig ν) : List (String × SensorConfig) :=
  config.zones.map (fun z => (z.name, z.sensor)) ++ config.ambient.toList.map ("ambient", ·)

end SystemConfig

/-! ## Replays -/

/-- A chain that was set up for a place, and has come to what it comes to by itself if it hears some
readings and takes those of its sources.  It knows the last one of each of them. -/
structure IsPlaced (done : List (Reading ν)) (place : String × SensorConfig) (c : SensorChain ν) :
    Prop where
  heard : ∃ new, SensorChain.create place.1 place.2 = .ok new ∧ c = new.hearAll done
  remembers : c.fallback.Remembers place.2.sources (done.map Reading.signal)

theorem isPlaced_of_create (place : String × SensorConfig) {new : SensorChain ν}
    (h : SensorChain.create place.1 place.2 = .ok new) (done : List (Reading ν)) :
    IsPlaced done place (new.hearAll done) := by
  refine ⟨⟨new, h, rfl⟩, ?_⟩
  have hall := SensorChain.remembers_hearAll (SensorChain.remembers_create h) done
  rwa [List.nil_append] at hall

/-- What a replay has made of some readings.  All its chains heard them and took their own, and
those of no source of the configuration were counted.  The chain of a source is that of the zone
which the table has for it. -/
structure SystemConfig.Distributes (config : SystemConfig ν) (done : List (Reading ν))
    (r : Replay ν) : Prop where
  chains : List.Forall₂ (IsPlaced done) config.places (r.chains ++ r.ambient.toList)
  routes : ∀ source,
    r.chainOf? source = (config.routes.get? source).bind fun place => r.chains[place]?
  readings : r.readings = done.length
  unrouted : r.unrouted = done.countP fun reading => !config.sources.contains reading.source

namespace SystemConfig

theorem ReplaysTo.distributes {config : SystemConfig ν} {readings done : List (Reading ν)}
    {r : Replay ν} (h : config.ReplaysTo readings done r) : config.Distributes done r := by
  obtain ⟨first, house, -, hhouse, hrun⟩ := h.reached
  have hdistinct := isDistinct_of_check (Outcome.of_mapError_eq_ok h.accepted)
  obtain ⟨built, zones, zones', ambient, scheduler, events, hbuilt, -, -, hambient, rfl⟩ :=
    Replay.create_eq_ok hhouse
  have hopened := Replay.sameWays_announceAll
    (Replay.opening config zones' (built.map Prod.snd) ambient scheduler) events
  have hapart := hopened.isApart (Replay.isApart_opening hdistinct hbuilt hambient)
  obtain ⟨hchains, houtside, hreadings, hunrouted⟩ := Replay.sameWays_run hapart hrun
  rw [Replay.heard, hopened.chains] at hchains
  rw [Replay.heard, hopened.ambient] at houtside
  have hlabels : r.chains.map SensorChain.label = config.labels := by
    rw [hchains, List.map_map, labels, ← Replay.labels_of_isBuilt hbuilt]
    exact List.map_congr_left fun c _ => c.label_hearAll done
  have hsources : Replay.sources (Replay.announceAll (Replay.opening config zones'
      (built.map Prod.snd) ambient scheduler) events) = config.sources := by
    rw [Replay.sources_eq_of_labels (congrArg _ hopened.chains) (congrArg _ hopened.ambient),
      Replay.sources, sources, List.flatMap_def, List.flatMap_def,
      ← Replay.sources_opening hbuilt hambient]
    rfl
  refine ⟨?_, fun source => ?_, ?_, ?_⟩
  · rw [hchains, houtside, Option.toList_map]
    refine List.rel_append ?_ ?_
    · refine List.forall₂_map_left_iff.mpr (List.forall₂_map_right_iff.mpr ?_)
      refine List.forall₂_map_right_iff.mpr ?_
      exact hbuilt.imp fun z b hb => isPlaced_of_create (z.name, z.sensor) hb.chain done
    · refine List.forall₂_map_left_iff.mpr (List.forall₂_map_right_iff.mpr ?_)
      exact hambient.imp fun s c hc => isPlaced_of_create ("ambient", s) hc done
  · rw [Replay.chainOf?, get?_routes hdistinct, List.find?_eq_bind_findIdx?_getElem?]
    have hplace := congrArg (List.findIdx? fun l => l.2.contains source) hlabels
    rw [labels, List.findIdx?_map, List.findIdx?_map] at hplace
    exact congrArg (Option.bind · _) hplace
  · rw [hreadings, Replay.heard, hopened.readings]
    exact Nat.zero_add _
  · rw [hunrouted, Replay.heard, hopened.unrouted, hsources]
    exact Nat.zero_add _

/-- A replay was there after each of the readings that are done. -/
theorem ReplaysTo.of_prefix {config : SystemConfig ν} {readings done earlier : List (Reading ν)}
    {r : Replay ν} (h : config.ReplaysTo readings done r) (hearlier : earlier <+: done) :
    ∃ r', config.ReplaysTo readings earlier r' := by
  obtain ⟨first, house, hfirst, hhouse, hrun⟩ := h.reached
  obtain ⟨rest, rfl⟩ := hearlier
  rw [Replay.run, List.foldlM_append] at hrun
  obtain ⟨r', hr', -⟩ := Outcome.of_bind_eq_ok hrun
  exact ⟨r', h.accepted, (List.prefix_append earlier rest).trans h.isPrefix, first, house, hfirst,
    hhouse, hr'⟩

/-- A replay that succeeds hands every reading to the one chain that has its source, and counts
those that no chain has.  This is so after each of its readings. -/
theorem distributes_of_replay {config : SystemConfig ν} {readings : List (Reading ν)}
    {report : ReplayReport ν} (h : config.replay readings = .ok report) :
    (∀ source ∈ config.sources,
      (config.sensors.countP fun s => s.sources.contains source) = 1) ∧
    (∀ done, done <+: Reading.sorted readings → readings ≠ [] →
      ∃ r, config.ReplaysTo readings done r ∧ config.Distributes done r) ∧
    report.readings = readings.length ∧
    report.unrouted = readings.countP fun reading => !config.sources.contains reading.source := by
  obtain ⟨_, haccepted, -⟩ := Outcome.of_bind_eq_ok h
  have hdistinct := isDistinct_of_check (Outcome.of_mapError_eq_ok haccepted)
  refine ⟨fun source hsource => countP_eq_one hdistinct.sources hsource, ?_⟩
  by_cases hsome : readings = []
  · subst hsome
    have hempty : config.replay [] = .ok .empty :=
      Outcome.bind_of_eq_ok haccepted (by rw [Reading.sorted, List.mergeSort_nil]; rfl)
    rw [hempty] at h
    cases h
    exact ⟨fun _ _ hne => absurd rfl hne, rfl, rfl⟩
  · obtain ⟨r, hr, rfl⟩ := replaysTo_of_replay h hsome
    have hperm := List.mergeSort_perm readings fun a b => decide (a.time ≤ b.time)
    have hall := hr.distributes
    refine ⟨fun done hprefix _ => ?_, ?_, ?_⟩
    · obtain ⟨r', hr'⟩ := hr.of_prefix hprefix
      exact ⟨r', hr', hr'.distributes⟩
    · exact hall.readings.trans hperm.length_eq
    · exact hall.unrouted.trans (hperm.countP_eq _)

/-- A cabin with a sensor in the attic that nobody knows. -/
theorem distributes_of_replay_in_cabin :
    let config : SystemConfig Rat := .cabin .cooling 1 none
    let wall : Reading Rat := ⟨.ofEpoch 0 0, "wall", some 22, none⟩
    let attic : Reading Rat := ⟨.ofEpoch 10 0, "attic", some 40, none⟩
    let roof : Reading Rat := ⟨.ofEpoch 20 0, "roof", some 15, none⟩
    ∃ report, config.replay [wall, attic, roof] = .ok report ∧
      (config.sensors.countP fun s => s.sources.contains "roof") = 1 ∧
      report.readings = 3 ∧ report.unrouted = 1 ∧
      ∃ r, config.ReplaysTo [wall, attic, roof] [wall, attic] r ∧
        config.Distributes [wall, attic] r := by
  intro config wall attic roof
  have hsorted : Reading.sorted [wall, attic, roof] = [wall, attic, roof] :=
    List.mergeSort_of_pairwise (by decide)
  obtain ⟨r, hr, -⟩ := config.exists_replaysTo wall [attic, roof] (fun _ => true) rfl hsorted
    (by decide +kernel)
  have hreached : config.ReplaysTo [wall, attic, roof] (Reading.sorted [wall, attic, roof]) r := by
    rw [hsorted]
    exact hr
  have hreplay := hreached.replay_eq
  obtain ⟨hone, hdone, hreadings, hunrouted⟩ := distributes_of_replay hreplay
  have hprefix : [wall, attic] <+: Reading.sorted [wall, attic, roof] := by
    rw [hsorted]
    exact ⟨[roof], rfl⟩
  exact ⟨r.report, hreplay, hone "roof" (by decide), hreadings,
    hunrouted.trans (by decide +kernel), hdone _ hprefix nofun⟩

end SystemConfig

end HomeClimate
