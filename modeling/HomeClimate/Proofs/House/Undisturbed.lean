import HomeClimate.Proofs.House.Silence
import HomeClimate.Proofs.Zone.Rendering

/-!
# Replays that nothing disturbs

At every reading a replay looks at the schedule and asks all chains about silence before
the reading goes to its chain.  The first two come to nothing if there is no schedule
(`IsUndisturbed.tick`) and no chain has waited as long as its timeout
(`IsUndisturbed.checkAll`).  What is left is the way of the reading, which names and
sources make plain (`IsWired`): to the chain of one zone, to the chain outside, or
nowhere.
-/

namespace HomeClimate

variable {ν : Type} [Scalar ν]

/-! ## Patience -/

/-- Times that lie closer together than a timeout. -/
def Within (times : Instant → Prop) (timeout : Span) : Prop :=
  ∀ t now, times t → times now → now.spanSince t < timeout

namespace SensorChain

/-- A chain that finds nothing to report at any of some times. -/
structure IsPatient (c : SensorChain ν) (times : Instant → Prop) : Prop where
  within : Within times c.silence.timeout
  lastSeen : ∀ t, c.silence.lastSeen = some t → times t

variable {c : SensorChain ν} {times : Instant → Prop}

omit [Scalar ν] in
/-- A patient chain only notes when it was asked first. -/
theorem IsPatient.check (h : c.IsPatient times) {now : Instant} (hnow : times now) :
    c.check now =
      ({ c with silence := { c.silence with lastSeen := some (c.silence.lastSeen.getD now) } },
        none) ∧
      (c.check now).1.IsPatient times := by
  have hseen : times (c.silence.lastSeen.getD now) := by
    cases hl : c.silence.lastSeen with
    | none => exact hnow
    | some t => exact h.lastSeen t hl
  have hquiet : (c.silence.check now : SilenceGuard × Option (Signal ν)) =
      ({ c.silence with lastSeen := some (c.silence.lastSeen.getD now) }, none) :=
    if_pos (h.within _ _ hseen hnow)
  rw [SensorChain.check, hquiet]
  refine ⟨rfl, h.within, fun t ht => ?_⟩
  cases ht
  exact hseen

theorem IsPatient.process (h : c.IsPatient times) {reading : Signal ν}
    (htime : times reading.time) : (c.process reading).1.IsPatient times := by
  cases hp : c.process reading with
  | mk c' out =>
      cases out with
      | none =>
          obtain ⟨-, hsilence⟩ := process_none hp
          exact ⟨hsilence.symm ▸ h.within, hsilence.symm ▸ h.lastSeen⟩
      | some out =>
          obtain ⟨-, hsilence⟩ := process_some hp
          have htimeout : c'.silence.timeout = c.silence.timeout := by rw [hsilence]; rfl
          refine ⟨htimeout.symm ▸ h.within, fun t ht => ?_⟩
          rw [hsilence] at ht
          cases ht
          exact (time_of_process hp).symm ▸ htime

end SensorChain

/-! ## Replays without a schedule -/

namespace Replay

/-- Names tell the chains of zones apart, and sources tell all chains apart. -/
structure IsApart (r : Replay ν) : Prop where
  names : (r.chains.map SensorChain.name).Nodup
  sources : ((r.chains ++ r.ambient.toList).map SensorChain.sources).Pairwise List.Disjoint

/-- Every chain of a zone has a zone, and names and sources tell chains and zones apart. -/
structure IsWired (r : Replay ν) : Prop where
  keys : r.zones.keys.Nodup
  zoned : ∀ c ∈ r.chains, c.name ∈ r.zones.keys
  names : (r.chains.map SensorChain.name).Nodup
  apart : ((r.chains ++ r.ambient.toList).map SensorChain.sources).Pairwise List.Disjoint

/-- A replay without a schedule, over readings at some times that no chain finds too far apart. -/
structure IsUndisturbed (r : Replay ν) (times : Instant → Prop) : Prop extends IsWired r where
  asleep : ∀ e ∈ r.zones, e.2.wakeUp = false
  patient : ∀ c ∈ r.chains, c.IsPatient times
  patientOutside : ∀ c, r.ambient = some c → c.IsPatient times
  unscheduled : r.scheduler.schedules = []

variable {r r' : Replay ν} {times : Instant → Prop}

section Labels

omit [Scalar ν]

theorem names_of_labels (h : r'.chains.map SensorChain.label = r.chains.map SensorChain.label) :
    r'.chains.map SensorChain.name = r.chains.map SensorChain.name := by
  have hnames := congrArg (List.map Prod.fst) h
  rwa [List.map_map, List.map_map] at hnames

theorem sources_of_labels
    (hchains : r'.chains.map SensorChain.label = r.chains.map SensorChain.label)
    (hambient : r'.ambient.map SensorChain.label = r.ambient.map SensorChain.label) :
    (r'.chains ++ r'.ambient.toList).map SensorChain.sources =
      (r.chains ++ r.ambient.toList).map SensorChain.sources := by
  have hall : (r'.chains ++ r'.ambient.toList).map SensorChain.label =
      (r.chains ++ r.ambient.toList).map SensorChain.label := by
    rw [List.map_append, List.map_append, hchains, ← Option.toList_map, ← Option.toList_map,
      hambient]
  have hsources := congrArg (List.map Prod.snd) hall
  rwa [List.map_map, List.map_map] at hsources

/-- Nothing but names and sources tells chains apart. -/
theorem IsApart.of_labels (h : r.IsApart)
    (hchains : r'.chains.map SensorChain.label = r.chains.map SensorChain.label)
    (hambient : r'.ambient.map SensorChain.label = r.ambient.map SensorChain.label) :
    r'.IsApart :=
  ⟨names_of_labels hchains ▸ h.names, sources_of_labels hchains hambient ▸ h.sources⟩

theorem IsWired.isApart (h : r.IsWired) : r.IsApart := ⟨h.names, h.apart⟩

/-- Nothing but the names of zones, and the names and sources of chains, makes the wiring. -/
theorem IsWired.of_labels (h : r.IsWired) (hkeys : r'.zones.keys = r.zones.keys)
    (hchains : r'.chains.map SensorChain.label = r.chains.map SensorChain.label)
    (hambient : r'.ambient.map SensorChain.label = r.ambient.map SensorChain.label) :
    r'.IsWired := by
  obtain ⟨hnodup, hapart⟩ := h.isApart.of_labels hchains hambient
  refine ⟨hkeys ▸ h.keys, fun c hc => ?_, hnodup, hapart⟩
  have hname : c.name ∈ r.chains.map SensorChain.name :=
    names_of_labels hchains ▸ List.mem_map.mpr ⟨c, hc, rfl⟩
  obtain ⟨c₀, hc₀, hsame⟩ := List.mem_map.mp hname
  rw [hkeys, ← hsame]
  exact h.zoned c₀ hc₀

end Labels

omit [Scalar ν] in
/-- What leaves zones, chains and the schedule alone does not disturb. -/
theorem IsUndisturbed.of_parts (h : r.IsUndisturbed times) (hzones : r'.zones = r.zones)
    (hchains : r'.chains = r.chains) (hambient : r'.ambient = r.ambient)
    (hscheduler : r'.scheduler = r.scheduler) : r'.IsUndisturbed times := by
  refine ⟨h.toIsWired.of_labels ?_ ?_ ?_, ?_, ?_, ?_, ?_⟩
  · rw [hzones]
  · rw [hchains]
  · rw [hambient]
  · exact hzones ▸ h.asleep
  · exact hchains ▸ h.patient
  · exact hambient ▸ h.patientOutside
  · exact hscheduler ▸ h.unscheduled

theorem IsUndisturbed.tick (h : r.IsUndisturbed times) (now : Instant) : r.tick now = r := by
  rw [Replay.tick, Scheduler.tick, h.unscheduled]
  rfl

/-- The replay with all its chains as they are after they were asked, none of which had anything to
report. -/
def noted (r : Replay ν) (now : Instant) : Replay ν :=
  { r with
    chains := r.chains.map fun c => (c.check now).1
    ambient := r.ambient.map fun c => (c.check now).1 }

omit [Scalar ν] in
/-- A chain that takes the place of one with its name takes the place of that one alone. -/
theorem setChain_eq {before after : List (SensorChain ν)} {c c' : SensorChain ν}
    (hchains : r.chains = before ++ c :: after) (hnames : (r.chains.map SensorChain.name).Nodup)
    (hname : c'.name = c.name) : r.setChain c' = { r with chains := before ++ c' :: after } := by
  rw [hchains, List.map_append, List.map_cons, List.nodup_append, List.nodup_cons] at hnames
  obtain ⟨-, ⟨hafter, -⟩, hbefore⟩ := hnames
  have hkept : ∀ l : List (SensorChain ν), (∀ k ∈ l, k.name ≠ c.name) →
      (l.map fun k => if k.name == c'.name then c' else k) = l := by
    intro l hl
    refine (List.map_congr_left fun k hk => ?_).trans (List.map_id l)
    rw [hname, if_neg (by simpa using hl k hk)]
    rfl
  rw [setChain, hchains, List.map_append, List.map_cons, hname, if_pos (beq_self_eq_true _),
    ← hname, hkept before, hkept after]
  · exact fun k hk heq => hafter (heq ▸ List.mem_map.mpr ⟨k, hk, rfl⟩)
  · exact fun k hk => hbefore _ (List.mem_map.mpr ⟨k, hk, rfl⟩) _ List.mem_cons_self

/-- Chains of different names that have nothing to report are asked one after the other. -/
theorem foldlM_checkChain {now : Instant} {done todo : List (SensorChain ν)}
    (hchains : r.chains = done ++ todo) (hnames : (r.chains.map SensorChain.name).Nodup)
    (hquiet : ∀ c ∈ todo, (c.check now).2 = none) :
    todo.foldlM (checkChain now) r =
      .ok { r with chains := done ++ todo.map fun c => (c.check now).1 } := by
  induction todo generalizing r done with
  | nil =>
      rw [List.foldlM_nil, List.map_nil, ← hchains]
      rfl
  | cons c todo ih =>
      obtain ⟨hc, htodo⟩ := List.forall_mem_cons.mp hquiet
      have hname : (c.check now).1.name = c.name := congrArg Prod.fst (c.label_check now)
      have hset := setChain_eq hchains hnames hname
      have hstep : checkChain now r c = .ok (r.setChain (c.check now).1) := by
        rw [checkChain_eq, hc]
        rfl
      have hnames' : ((r.setChain (c.check now).1).chains.map SensorChain.name).Nodup := by
        rw [hchains, List.map_append, List.map_cons, ← hname] at hnames
        rw [hset, List.map_append, List.map_cons]
        exact hnames
      have hchains' : (r.setChain (c.check now).1).chains =
          (done ++ [(c.check now).1]) ++ todo := by
        rw [hset, List.append_assoc]
        rfl
      rw [List.foldlM_cons, hstep]
      refine (ih hchains' hnames' htodo).trans ?_
      rw [hset, List.map_cons, List.append_assoc]
      rfl

theorem IsUndisturbed.checkAll (h : r.IsUndisturbed times) {now : Instant} (hnow : times now) :
    r.checkAll now = .ok (r.noted now) ∧ (r.noted now).IsUndisturbed times := by
  have hall : r.chains = [] ++ r.chains := rfl
  have hchains := foldlM_checkChain hall h.names
    fun c hc => congrArg Prod.snd ((h.patient c hc).check hnow).1
  refine ⟨?_, ?_⟩
  · rw [Replay.checkAll, hchains]
    show Replay.checkAmbient now _ = _
    rw [Replay.checkAmbient]
    cases ha : r.ambient with
    | none => simp [noted, ha]
    | some c =>
        have hquiet := ((h.patientOutside c ha).check hnow).1
        simp only [Option.map_some, hquiet, noted, ha]
        rfl
  · refine ⟨h.toIsWired.of_labels rfl ?_ ?_, h.asleep, fun c' hc' => ?_, fun c' hc' => ?_,
      h.unscheduled⟩
    · rw [noted, List.map_map]
      exact List.map_congr_left fun c _ => c.label_check now
    · rw [noted, Option.map_map]
      exact Option.map_congr fun c _ => c.label_check now
    · obtain ⟨c, hc, rfl⟩ := List.mem_map.mp hc'
      exact ((h.patient c hc).check hnow).2
    · obtain ⟨c, hc, rfl⟩ := Option.map_eq_some_iff.mp hc'
      exact ((h.patientOutside c hc).check hnow).2

omit [Scalar ν] in
/-- A chain that takes the place of one with its label leaves the replay undisturbed. -/
theorem IsUndisturbed.setChain (h : r.IsUndisturbed times) {before after : List (SensorChain ν)}
    {c c' : SensorChain ν} (hchains : r.chains = before ++ c :: after) (hlabel : c'.label = c.label)
    (hpatient : c'.IsPatient times) :
    r.setChain c' = { r with chains := before ++ c' :: after } ∧
      IsUndisturbed { r with chains := before ++ c' :: after } times := by
  refine ⟨setChain_eq hchains h.names (congrArg Prod.fst hlabel), ?_⟩
  refine ⟨h.toIsWired.of_labels rfl ?_ rfl, h.asleep, fun k hk => ?_, h.patientOutside,
    h.unscheduled⟩
  · rw [hchains, List.map_append, List.map_cons, List.map_append, List.map_cons, hlabel]
  · rcases List.mem_append.mp hk with hk | hk
    · exact h.patient k (hchains ▸ List.mem_append_left _ hk)
    · rcases List.mem_cons.mp hk with rfl | hk
      · exact hpatient
      · exact h.patient k (hchains ▸ List.mem_append_right _ (List.mem_cons_of_mem c hk))

omit [Scalar ν] in
theorem IsUndisturbed.setAmbient (h : r.IsUndisturbed times) {c c' : SensorChain ν}
    (hambient : r.ambient = some c) (hlabel : c'.label = c.label) (hpatient : c'.IsPatient times) :
    IsUndisturbed { r with ambient := some c' } times := by
  refine ⟨h.toIsWired.of_labels rfl rfl ?_, h.asleep, h.patient, fun k hk => ?_, h.unscheduled⟩
  · rw [hambient, Option.map_some, hlabel, Option.map_some]
  · cases hk
    exact hpatient

omit [Scalar ν] in
theorem IsUndisturbed.setZones (h : r.IsUndisturbed times) {zones : Zones ν}
    (hkeys : zones.keys = r.zones.keys) (hasleep : ∀ e ∈ zones, e.2.wakeUp = false) :
    IsUndisturbed { r with zones } times :=
  ⟨h.toIsWired.of_labels hkeys rfl rfl, hasleep, h.patient, h.patientOutside, h.unscheduled⟩

theorem IsUndisturbed.arbitrate (h : r.IsUndisturbed times) (status : Signal (ZoneStatus ν)) :
    (r.arbitrate status).IsUndisturbed times :=
  h.of_parts rfl rfl rfl rfl

/-! ## The way of a reading -/

/-- Where a reading goes: to the one chain that has its source, of a zone or outside, or nowhere. -/
inductive Route (r : Replay ν) (reading : Reading ν) : Prop where
  | chain (before after : List (SensorChain ν)) (c : SensorChain ν)
      (split : r.chains = before ++ c :: after) (known : reading.source ∈ c.sources)
      (others : ∀ k ∈ before ++ after ++ r.ambient.toList, reading.source ∉ k.sources)
      (route : r.route reading =
        r.deliver reading.time (c.process reading.signal).1 (c.process reading.signal).2)
  | ambient (c : SensorChain ν) (outside : r.ambient = some c) (known : reading.source ∈ c.sources)
      (others : ∀ k ∈ r.chains, reading.source ∉ k.sources)
      (route : r.route reading =
        match (c.process reading.signal).2 with
        | none => .ok { r with ambient := some (c.process reading.signal).1 }
        | some sample =>
            ambientSample { r with ambient := some (c.process reading.signal).1 } reading.time
              sample)
  | nowhere (others : ∀ k ∈ r.chains ++ r.ambient.toList, reading.source ∉ k.sources)
      (route : r.route reading = .ok { r with unrouted := r.unrouted + 1 })

theorem IsApart.route (h : r.IsApart) (reading : Reading ν) : r.Route reading := by
  cases hchain : r.chainOf? reading.source with
  | some c =>
      obtain ⟨hc, before, after, hsplit, hbefore⟩ := List.find?_eq_some_iff_append.mp hchain
      have hknown : reading.source ∈ c.sources := List.contains_iff_mem.mp hc
      have hapart := h.sources
      rw [hsplit, List.append_assoc, List.cons_append, List.map_append, List.map_cons,
        List.pairwise_append, List.pairwise_cons] at hapart
      obtain ⟨-, ⟨hafter, -⟩, hbefore'⟩ := hapart
      refine .chain before after c hsplit hknown (fun k hk hsource => ?_) ?_
      · rw [List.append_assoc] at hk
        rcases List.mem_append.mp hk with hk | hk
        · exact hbefore' _ (List.mem_map.mpr ⟨k, hk, rfl⟩) _ List.mem_cons_self hsource hknown
        · exact hafter _ (List.mem_map.mpr ⟨k, hk, rfl⟩) hknown hsource
      · rw [Replay.route, hchain]
        dsimp only
        cases c.process reading.signal with
        | mk c' out =>
            cases out with
            | none => rfl
            | some sample => rfl
  | none =>
      have hchains : ∀ k ∈ r.chains, reading.source ∉ k.sources := fun k hk => by
        simpa using List.find?_eq_none.mp hchain k hk
      cases hambient : r.ambientOf? reading.source with
      | some c =>
          obtain ⟨houtside, hc⟩ := Option.filter_eq_some_iff.mp hambient
          refine .ambient c houtside (List.contains_iff_mem.mp hc) hchains ?_
          rw [Replay.route, hchain, hambient]
          dsimp only
          cases c.process reading.signal with
          | mk c' out =>
              cases out with
              | none => rfl
              | some sample => rfl
      | none =>
          refine .nowhere (fun k hk => ?_) (by rw [Replay.route, hchain, hambient])
          rcases List.mem_append.mp hk with hk | hk
          · exact hchains k hk
          · have houtside : r.ambient = some k := Option.mem_toList.mp hk
            rw [ambientOf?, houtside, Option.filter_some] at hambient
            split at hambient
            · cases hambient
            · rename_i hdeaf
              exact fun hsource => hdeaf (List.contains_iff_mem.mpr hsource)

/-! ## The start -/

theorem isBuilt_buildZone {z : ZoneConfig ν} {b : Zone ν × SensorChain ν}
    (h : buildZone z = .ok b) : IsBuilt z b ∧ b.1.wakeUp = false := by
  obtain ⟨zone, hzone, h⟩ := Outcome.of_bind_eq_ok h
  obtain ⟨chain, hchain, h⟩ := Outcome.of_bind_eq_ok h
  cases h
  refine ⟨⟨ZoneConfig.isNew_build hzone, hchain⟩, ?_⟩
  obtain ⟨thermostat, -, hzone⟩ := Outcome.of_bind_eq_ok hzone
  obtain ⟨economizer, -, hzone⟩ := Outcome.of_bind_eq_ok hzone
  obtain ⟨_, -, hzone⟩ := Outcome.of_bind_eq_ok (Outcome.of_mapError_eq_ok hzone)
  obtain ⟨_, -, hzone⟩ := Outcome.of_bind_eq_ok hzone
  cases hzone
  rfl

theorem isPatient_create {name : String} {config : SensorConfig} {c : SensorChain ν}
    (h : SensorChain.create name config = .ok c)
    (hwithin : Within times (Span.millis config.timeoutMillis)) : c.IsPatient times := by
  have hnew := SensorChain.isNew_create h
  refine ⟨hnew.timeout.symm ▸ hwithin, fun t ht => ?_⟩
  rw [hnew.lastSeen] at ht
  cases ht

/-- All chains have the sources that the configuration gives them. -/
theorem sources_opening {config : SystemConfig ν} {built : List (Zone ν × SensorChain ν)}
    {ambient : Option (SensorChain ν)} (hbuilt : List.Forall₂ IsBuilt config.zones built)
    (hambient : List.Forall₂ (fun s c => SensorChain.create "ambient" s = .ok c)
      config.ambient.toList ambient.toList) :
    (built.map Prod.snd ++ ambient.toList).map SensorChain.sources =
      config.sensors.map SensorConfig.sources := by
  have hinside : (built.map Prod.snd).map SensorChain.sources =
      (config.zones.map ZoneConfig.sensor).map SensorConfig.sources := by
    simpa [Function.comp_def, SensorChain.label] using
      congrArg (List.map Prod.snd) (labels_of_isBuilt hbuilt)
  have houtside : config.ambient.toList.map SensorConfig.sources =
      ambient.toList.map SensorChain.sources := by
    rw [← List.forall₂_eq_eq_eq, List.forall₂_map_left_iff, List.forall₂_map_right_iff]
    exact hambient.imp fun s c hc => (congrArg Prod.snd (SensorChain.isNew_create hc).label).symm
  rw [List.map_append, SystemConfig.sensors, List.map_append, hinside, houtside]

/-- The chains of an accepted configuration are told apart. -/
theorem isApart_opening {config : SystemConfig ν} (hdistinct : config.IsDistinct)
    {built : List (Zone ν × SensorChain ν)} {zones : Zones ν} {ambient : Option (SensorChain ν)}
    {scheduler : Scheduler ν} (hbuilt : List.Forall₂ IsBuilt config.zones built)
    (hambient : List.Forall₂ (fun s c => SensorChain.create "ambient" s = .ok c)
      config.ambient.toList ambient.toList) :
    (opening config zones (built.map Prod.snd) ambient scheduler).IsApart := by
  have hnames : (built.map Prod.snd).map SensorChain.name = config.zones.map ZoneConfig.name := by
    simpa [Function.comp_def, SensorChain.label] using
      congrArg (List.map Prod.fst) (labels_of_isBuilt hbuilt)
  refine ⟨hnames ▸ hdistinct.zones, ?_⟩
  show ((built.map Prod.snd ++ ambient.toList).map SensorChain.sources).Pairwise List.Disjoint
  rw [sources_opening hbuilt hambient, List.pairwise_map]
  exact (List.nodup_flatMap.mp hdistinct.sources).2

/-- The house of an accepted configuration without a schedule is undisturbed by readings that lie
closer together than every timeout. -/
theorem isUndisturbed_opening {config : SystemConfig ν} (hdistinct : config.IsDistinct)
    (hwithin : ∀ s ∈ config.sensors, Within times (Span.millis s.timeoutMillis))
    {built : List (Zone ν × SensorChain ν)} {zones : Zones ν} {ambient : Option (SensorChain ν)}
    {scheduler : Scheduler ν}
    (hbuilt : List.Forall₂ (fun z b => buildZone z = .ok b) config.zones built)
    (hzones : Zones.create (built.map Prod.fst) = .ok zones)
    (hambient : List.Forall₂ (fun s c => SensorChain.create "ambient" s = .ok c)
      config.ambient.toList ambient.toList)
    (hscheduler : scheduler.schedules = []) :
    (opening config zones (built.map Prod.snd) ambient scheduler).IsUndisturbed times := by
  have hopening : (opening config zones (built.map Prod.snd) ambient scheduler).IsApart :=
    isApart_opening hdistinct (hbuilt.imp fun z b hb => (isBuilt_buildZone hb).1) hambient
  obtain ⟨hnames, hapart⟩ := hopening
  refine ⟨⟨(Zones.sorted_create hzones).nodup, ?_, hnames, hapart⟩, ?_, ?_, ?_, hscheduler⟩
  · intro c hc
    obtain ⟨b, hb, rfl⟩ := List.mem_map.mp hc
    obtain ⟨z, -, hz⟩ := Outcome.exists_of_mem_right hbuilt hb
    have hnew := (isBuilt_buildZone hz).1
    have hname : b.2.name = b.1.name :=
      (congrArg Prod.fst (SensorChain.isNew_create hnew.chain).label).trans hnew.zone.name.symm
    exact hname ▸ Zones.mem_keys_of_create hzones (List.mem_map_of_mem hb)
  · refine Zones.forall_create (P := fun _ z => z.wakeUp = false) hzones fun z hz => ?_
    obtain ⟨b, hb, rfl⟩ := List.mem_map.mp hz
    obtain ⟨z, -, hz⟩ := Outcome.exists_of_mem_right hbuilt hb
    exact (isBuilt_buildZone hz).2
  · intro c hc
    obtain ⟨b, hb, rfl⟩ := List.mem_map.mp hc
    obtain ⟨z, hz, hzb⟩ := Outcome.exists_of_mem_right hbuilt hb
    refine isPatient_create (isBuilt_buildZone hzb).1.chain (hwithin _ ?_)
    exact List.mem_append_left _ (List.mem_map_of_mem hz)
  · intro c hc
    obtain ⟨s, hs, hsc⟩ := Outcome.exists_of_mem_right hambient (Option.mem_toList.mpr hc)
    exact isPatient_create hsc (hwithin s (List.mem_append_right _ hs))

end Replay

/-- A replay over readings that are in order is what comes of its house. -/
theorem SystemConfig.replay_cons {config : SystemConfig ν} {first : Reading ν}
    {rest : List (Reading ν)} {house : Replay ν} (haccepted : config.validate = .ok ())
    (hsorted : Reading.sorted (first :: rest) = first :: rest)
    (hcreate : Replay.create config first.time = .ok house) :
    config.replay (first :: rest) =
      (HouseError.ofFault (house.run (first :: rest))).map Replay.report := by
  refine Outcome.bind_of_eq_ok haccepted ?_
  rw [hsorted]
  refine Outcome.bind_of_eq_ok hcreate ?_
  cases house.run (first :: rest) with
  | error f => rfl
  | ok r => rfl

end HomeClimate
