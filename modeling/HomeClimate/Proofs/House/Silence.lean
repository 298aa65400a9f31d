import HomeClimate.Proofs.Config.Check
import HomeClimate.Proofs.House.ChainRun
import HomeClimate.Proofs.House.Tracking
import Mathlib.Data.List.Pairwise

/-!
# Silent sensors

A house fails safely when sensors fall silent.  Three things make it so.

* A zone and its recorded status have failed exactly if the last sample of the zone
  had failed (`Replay.Tracks`).
* In the house a chain gives what it would give by itself (`Replay.Follows`), since
  no two chains have a name or a source in common.
* By itself it does not let a value stand for as long as its timeout
  (`ChainRun.Watches`).
-/

namespace HomeClimate

variable {ν : Type}

namespace Replay

/-! ## The chains of a house -/

/-- Names and sources of chains that tell them apart. -/
structure TellApart (labels : List (String × List String)) : Prop where
  names : (labels.map Prod.fst).Nodup
  sources : ∀ l ∈ labels, ∀ l' ∈ labels, ∀ source, source ∈ l.2 → source ∈ l'.2 → l = l'

theorem TellApart.eq_of_name {labels : List (String × List String)} (h : TellApart labels)
    {l l' : String × List String} (hl : l ∈ labels) (hl' : l' ∈ labels) (hname : l.1 = l'.1) :
    l = l' :=
  List.inj_on_of_nodup_map h.names hl hl' hname

/-- The house has a chain that has come as far as it has by itself, and has tracked what it gave. -/
structure Follows (r : Replay ν) (labels : List (String × List String)) (w : ChainRun ν) :
    Prop where
  labels : r.chains.map SensorChain.label = labels
  chain : w.chain ∈ r.chains
  tracks : r.Tracks w.chain.name w.failed?

section Follows

variable {r r' : Replay ν} {labels : List (String × List String)} {w : ChainRun ν}

/-- What leaves all chains alone is followed if it is tracked. -/
theorem Follows.of_chains_eq (h : r.Follows labels w) (hchains : r'.chains = r.chains)
    (htracks : r'.Tracks w.chain.name w.failed?) : r'.Follows labels w :=
  ⟨hchains ▸ h.labels, hchains ▸ h.chain, htracks⟩

theorem Follows.mem_labels (h : r.Follows labels w) {chain : SensorChain ν}
    (hchain : chain ∈ r.chains) : chain.label ∈ labels :=
  h.labels ▸ List.mem_map.mpr ⟨chain, hchain, rfl⟩

/-- No two chains of the house have one name. -/
theorem Follows.nodup_names (h : r.Follows labels w) (hapart : TellApart labels) :
    (r.chains.map SensorChain.name).Nodup := by
  have hnodup := hapart.names
  rw [← h.labels, List.map_map] at hnodup
  exact hnodup

theorem Follows.eq_of_name (h : r.Follows labels w) (hapart : TellApart labels)
    {chain : SensorChain ν} (hchain : chain ∈ r.chains) (hname : chain.name = w.chain.name) :
    chain = w.chain :=
  List.inj_on_of_nodup_map (h.nodup_names hapart) hchain h.chain hname

/-- A chain that takes the place of one with its label leaves all labels as they were. -/
theorem labels_setChain (hlabels : r.chains.map SensorChain.label = labels)
    (hapart : TellApart labels) {chain : SensorChain ν} (hchain : chain.label ∈ labels) :
    (r.setChain chain).chains.map SensorChain.label = labels := by
  rw [← hlabels, setChain, List.map_map]
  refine List.map_congr_left fun c hc => ?_
  rw [Function.comp_apply]
  split
  · rename_i hname
    have hlabel : c.label ∈ labels := hlabels ▸ List.mem_map.mpr ⟨c, hc, rfl⟩
    exact hapart.eq_of_name hchain hlabel (beq_iff_eq.mp hname).symm
  · rfl

variable [Scalar ν]

/-! ## What a chain gives in a house -/

/-- The replay after a chain came to be another and gave its zone a sample, or gave nothing. -/
def deliver (r : Replay ν) (now : Instant) (chain : SensorChain ν) (out : Option (Signal ν)) :
    Except (Fault ν) (Replay ν) :=
  match out with
  | none => .ok (r.setChain chain)
  | some sample => (r.setChain chain).zoneSample now chain.name sample

theorem checkChain_eq (r : Replay ν) (now : Instant) (chain : SensorChain ν) :
    checkChain now r chain = r.deliver now (chain.check now).1 (chain.check now).2 := by
  rw [checkChain]
  cases chain.check now with
  | mk chain out =>
      cases out with
      | none => rfl
      | some report => rfl

theorem chains_zoneSample {now : Instant} {name : String} {sample : Signal ν}
    (h : r.zoneSample now name sample = .ok r') : r'.chains = r.chains := by
  rw [zoneSample] at h
  cases hz : r.zones.get? name with
  | none =>
      rw [hz] at h
      cases h
      rfl
  | some z =>
      rw [hz] at h
      obtain ⟨⟨z', status⟩, -, rfl⟩ := Outcome.of_map_eq_ok h
      rfl

/-- What other chains give is nothing to follow. -/
theorem Follows.deliver_other (h : r.Follows labels w) (hapart : TellApart labels)
    {now : Instant} {chain : SensorChain ν} {out : Option (Signal ν)}
    (hchain : chain.label ∈ labels) (hother : chain.name ≠ w.chain.name)
    (hdeliver : r.deliver now chain out = .ok r') : r'.Follows labels w := by
  have hlabels := labels_setChain h.labels hapart hchain
  have hmem : w.chain ∈ (r.setChain chain).chains := by
    refine List.mem_map.mpr ⟨w.chain, h.chain, if_neg ?_⟩
    simpa using Ne.symm hother
  have htracks := (steady_tracks w.chain.name w.failed?).setChain chain h.tracks
  cases out with
  | none =>
      cases hdeliver
      exact ⟨hlabels, hmem, htracks⟩
  | some sample =>
      have hsample : (r.setChain chain).zoneSample now chain.name sample = .ok r' := hdeliver
      have hchains := chains_zoneSample hsample
      have htracks' := htracks.zoneSample hsample
      rw [if_neg hother] at htracks'
      exact ⟨hchains ▸ hlabels, hchains ▸ hmem, htracks'⟩

/-- What the chain itself gives is what it would give by itself. -/
theorem Follows.deliver_own (h : r.Follows labels w) (hapart : TellApart labels)
    {now : Instant} {chain : SensorChain ν} {out : Option (Signal ν)}
    (hchain : chain.label = w.chain.label) (hdeliver : r.deliver now chain out = .ok r') :
    r'.Follows labels ⟨chain, w.given ++ out.toList⟩ := by
  have hname : chain.name = w.chain.name := congrArg Prod.fst hchain
  have hlabels := labels_setChain h.labels hapart (hchain ▸ h.mem_labels h.chain)
  have hmem : chain ∈ (r.setChain chain).chains := by
    refine List.mem_map.mpr ⟨w.chain, h.chain, if_pos ?_⟩
    rw [hname, beq_self_eq_true]
  have htracks := (steady_tracks w.chain.name w.failed?).setChain chain h.tracks
  rw [← hname] at htracks
  cases out with
  | none =>
      cases hdeliver
      refine ⟨hlabels, hmem, ?_⟩
      rw [ChainRun.failed?, Option.toList_none, List.append_nil]
      exact htracks
  | some sample =>
      have hsample : (r.setChain chain).zoneSample now chain.name sample = .ok r' := hdeliver
      have hchains := chains_zoneSample hsample
      have htracks' := htracks.zoneSample hsample
      rw [if_pos rfl] at htracks'
      refine ⟨hchains ▸ hlabels, hchains ▸ hmem, ?_⟩
      rw [ChainRun.failed?, Option.toList_some, List.getLast?_concat]
      exact htracks'

/-- Other chains that are asked about silence are nothing to follow. -/
theorem Follows.checkOthers (h : r.Follows labels w) (hapart : TellApart labels) {now : Instant}
    {chains : List (SensorChain ν)}
    (hothers : ∀ c ∈ chains, c.label ∈ labels ∧ c.name ≠ w.chain.name)
    (hcheck : chains.foldlM (checkChain now) r = .ok r') : r'.Follows labels w := by
  refine Outcome.foldlM_invariant (P := fun r : Replay ν => r.Follows labels w) ?_ hcheck h
  intro r r' c hc h hcheck
  obtain ⟨hlabel, hother⟩ := hothers c hc
  have hkept : (c.check now).1.label = c.label := c.label_check now
  have hname : (c.check now).1.name = c.name := congrArg Prod.fst hkept
  rw [checkChain_eq] at hcheck
  exact h.deliver_other hapart (hkept ▸ hlabel) (hname ▸ hother) hcheck

/-- All chains are asked about silence, the chain itself among them. -/
theorem Follows.checkChains (h : r.Follows labels w) (hapart : TellApart labels) {now : Instant}
    (hcheck : r.chains.foldlM (checkChain now) r = .ok r') :
    r'.Follows labels (w.check now) := by
  obtain ⟨before, after, hsplit⟩ := List.append_of_mem h.chain
  have hnames := h.nodup_names hapart
  have hmem : ∀ c ∈ before ++ after, c.label ∈ labels := by
    intro c hc
    refine h.mem_labels ?_
    rw [hsplit]
    rcases List.mem_append.mp hc with hc | hc
    · exact List.mem_append_left _ hc
    · exact List.mem_append_right _ (List.mem_cons_of_mem _ hc)
  rw [hsplit, List.map_append, List.map_cons, List.nodup_middle, List.nodup_cons,
    ← List.map_append] at hnames
  have hother : ∀ c ∈ before ++ after, c.label ∈ labels ∧ c.name ≠ w.chain.name := by
    refine fun c hc => ⟨hmem c hc, fun hname => hnames.1 ?_⟩
    exact hname ▸ List.mem_map.mpr ⟨c, hc, rfl⟩
  rw [hsplit, List.foldlM_append] at hcheck
  obtain ⟨r₁, hbefore, hcheck⟩ := Outcome.of_bind_eq_ok hcheck
  rw [List.foldlM_cons] at hcheck
  obtain ⟨r₂, hown, hafter⟩ := Outcome.of_bind_eq_ok hcheck
  have h₁ := h.checkOthers hapart (fun c hc => hother c (List.mem_append_left _ hc)) hbefore
  rw [checkChain_eq] at hown
  have h₂ : r₂.Follows labels (w.check now) :=
    h₁.deliver_own hapart (w.chain.label_check now) hown
  have hname : (w.check now).chain.name = w.chain.name :=
    congrArg Prod.fst (w.chain.label_check now)
  refine h₂.checkOthers hapart (fun c hc => ?_) hafter
  rw [hname]
  exact hother c (List.mem_append_right _ hc)

theorem chains_announceAll (r : Replay ν) (events : List (ScheduleEvent ν)) :
    (r.announceAll events).chains = r.chains := by
  induction events generalizing r with
  | nil => rfl
  | cons event rest ih =>
      refine (ih (r.announce event)).trans ?_
      rw [announce]
      split
      · rfl
      · rfl

theorem chains_ambientSample {now : Instant} {sample : Signal ν}
    (h : r.ambientSample now sample = .ok r') : r'.chains = r.chains := by
  obtain ⟨zones, -, rfl⟩ := retain_ambientSample h
  rfl

theorem chains_checkAmbient {now : Instant} (h : r.checkAmbient now = .ok r') :
    r'.chains = r.chains := by
  rw [checkAmbient] at h
  split at h
  · cases h
    rfl
  · cases h
    rfl
  · exact chains_ambientSample (r := { r with ambient := some _ }) h

/-- A look at the schedule is nothing to follow. -/
theorem Follows.tick (h : r.Follows labels w) (now : Instant) :
    (r.tick now).Follows labels w :=
  h.of_chains_eq (chains_announceAll _ _) ((steady_tracks _ _).tick now h.tracks)

theorem Follows.checkAll (h : r.Follows labels w) (hapart : TellApart labels) {now : Instant}
    (hcheck : r.checkAll now = .ok r') : r'.Follows labels (w.check now) := by
  obtain ⟨r₁, hchains, hambient⟩ := Outcome.of_bind_eq_ok hcheck
  have h₁ := h.checkChains hapart hchains
  exact h₁.of_chains_eq (chains_checkAmbient hambient)
    ((steady_tracks _ _).checkAmbient hambient h₁.tracks)

/-- A reading goes to a chain that has its source, or to no chain of a zone. -/
theorem route_cases {reading : Reading ν} (h : r.route reading = .ok r') :
    (∃ chain ∈ r.chains, chain.sources.contains reading.source = true ∧
        r.deliver reading.time (chain.process reading.signal).1 (chain.process reading.signal).2
          = .ok r') ∨
      ((∀ chain ∈ r.chains, chain.sources.contains reading.source = false) ∧
        r'.chains = r.chains ∧ ∀ I : Replay ν → Prop, Steady I → I r → I r') := by
  rw [route] at h
  cases hchain : r.chainOf? reading.source with
  | some chain =>
      have htakes : chain.sources.contains reading.source = true := List.find?_some
        (p := fun c : SensorChain ν => c.sources.contains reading.source) hchain
      refine .inl ⟨chain, List.mem_of_find?_eq_some hchain, htakes, ?_⟩
      rw [hchain] at h
      dsimp only at h
      cases hp : chain.process reading.signal with
      | mk chain' out =>
          rw [hp] at h
          cases out with
          | none => exact h
          | some sample => exact h
  | none =>
      have hnone : ∀ chain ∈ r.chains, chain.sources.contains reading.source = false := by
        intro chain hmem
        simpa using List.find?_eq_none.mp hchain chain hmem
      refine .inr ⟨hnone, ?_⟩
      rw [hchain] at h
      cases hambient : r.ambientOf? reading.source with
      | none =>
          rw [hambient] at h
          cases h
          exact ⟨rfl, fun I hI hr => hI.frame r _ rfl rfl rfl hr⟩
      | some chain =>
          rw [hambient] at h
          dsimp only at h
          cases hp : chain.process reading.signal with
          | mk chain' out =>
              rw [hp] at h
              cases out with
              | none =>
                  cases h
                  exact ⟨rfl, fun I hI hr => hI.frame r _ rfl rfl rfl hr⟩
              | some sample =>
                  dsimp only at h
                  refine ⟨chains_ambientSample (r := { r with ambient := some chain' }) h, ?_⟩
                  exact fun I hI hr => hI.ambientSample h (hI.frame r _ rfl rfl rfl hr)

/-- A reading goes to the chain itself exactly if the chain would take it by itself. -/
theorem Follows.route (h : r.Follows labels w) (hapart : TellApart labels) {reading : Reading ν}
    (hroute : r.route reading = .ok r') :
    r'.Follows labels
      (if w.chain.sources.contains reading.source then w.process reading.signal else w) := by
  rcases route_cases hroute with ⟨chain, hmem, htakes, hdeliver⟩ | ⟨hnone, hchains, hsteady⟩
  · have hlabel := chain.label_process reading.signal
    by_cases hown : w.chain.sources.contains reading.source = true
    · rw [if_pos hown]
      have hsame : chain.label = w.chain.label :=
        hapart.sources _ (h.mem_labels hmem) _ (h.mem_labels h.chain) reading.source
          (List.contains_iff_mem.mp htakes) (List.contains_iff_mem.mp hown)
      obtain rfl := h.eq_of_name hapart hmem (congrArg Prod.fst hsame)
      exact h.deliver_own hapart hlabel hdeliver
    · rw [if_neg hown]
      have hkept : (chain.process reading.signal).1.name = chain.name := congrArg Prod.fst hlabel
      refine h.deliver_other hapart (hlabel ▸ h.mem_labels hmem) (fun hname => ?_) hdeliver
      have heq := h.eq_of_name hapart hmem (hkept.symm.trans hname)
      exact hown (heq ▸ htakes)
  · rw [if_neg (by rw [hnone w.chain h.chain]; exact Bool.false_ne_true)]
    exact h.of_chains_eq hchains (hsteady _ (steady_tracks _ _) h.tracks)

/-- What the chain gives at a reading of the house is what it would give by itself. -/
theorem Follows.step (h : r.Follows labels w) (hapart : TellApart labels) {reading : Reading ν}
    (hstep : r.step reading = .ok r') : r'.Follows labels (w.hear reading) := by
  obtain ⟨r₁, hcheck, hroute⟩ := Outcome.of_bind_eq_ok hstep
  have hcounted : Follows { r with readings := r.readings + 1 } labels w :=
    h.of_chains_eq rfl ((steady_tracks _ _).frame r _ rfl rfl rfl h.tracks)
  exact ((hcounted.tick reading.time).checkAll hapart hcheck).route hapart hroute

theorem Follows.run {readings : List (Reading ν)} (h : r.Follows labels w)
    (hapart : TellApart labels) (hrun : r.run readings = .ok r') :
    r'.Follows labels (w.run readings) := by
  induction readings generalizing r w with
  | nil =>
      cases hrun
      exact h
  | cons reading rest ih =>
      rw [Replay.run, List.foldlM_cons] at hrun
      obtain ⟨r₁, hstep, hrest⟩ := Outcome.of_bind_eq_ok hrun
      exact ih (h.step hapart hstep) hrest

end Follows

end Replay

/-! ## The start -/

/-- What the chains of the zones of a configuration are known by. -/
def SystemConfig.labels (config : SystemConfig ν) : List (String × List String) :=
  config.zones.map fun z => (z.name, z.sensor.sources)

theorem SystemConfig.IsDistinct.tellApart {config : SystemConfig ν} (h : config.IsDistinct) :
    Replay.TellApart config.labels := by
  refine ⟨?_, ?_⟩
  · rw [labels, List.map_map]
    exact h.zones
  · have hsources := h.sources
    rw [sensors, List.flatMap_append, List.flatMap_map] at hsources
    have hpairwise := (List.nodup_flatMap.mp (List.nodup_append.mp hsources).1).2
    intro l hl l' hl' source hsource hsource'
    obtain ⟨z, hz, rfl⟩ := List.mem_map.mp hl
    obtain ⟨z', hz', rfl⟩ := List.mem_map.mp hl'
    have hsymm : Std.Symm (Function.onFun List.Disjoint fun z : ZoneConfig ν => z.sensor.sources) :=
      ⟨fun _ _ hdisjoint _ hmem hmem' => hdisjoint hmem' hmem⟩
    by_contra hne
    exact hpairwise.forall hz hz' (fun heq => hne (heq ▸ rfl)) hsource hsource'

variable [Scalar ν]

namespace Replay

theorem labels_of_isBuilt {zones : List (ZoneConfig ν)} {built : List (Zone ν × SensorChain ν)}
    (h : List.Forall₂ IsBuilt zones built) :
    (built.map Prod.snd).map SensorChain.label = zones.map fun z => (z.name, z.sensor.sources) := by
  induction h with
  | nil => rfl
  | cons hb _ ih => exact congrArg₂ List.cons (SensorChain.isNew_create hb.chain).label ih

/-- A house that a configuration makes has a chain for every zone, and has tracked that it gave
nothing. -/
theorem follows_create {config : SystemConfig ν} {now : Instant} {r : Replay ν}
    (h : create config now = .ok r) {z : ZoneConfig ν} (hz : z ∈ config.zones) :
    ∃ chain, SensorChain.create z.name z.sensor = .ok chain ∧
      r.Follows config.labels (.start chain) := by
  obtain ⟨built, zones, zones', ambient, scheduler, events, hbuilt, hzones, hretain, -, rfl⟩ :=
    create_eq_ok h
  have hlabels := labels_of_isBuilt hbuilt
  have hnew : ∀ b ∈ built, ∃ name, b.1.IsNew name := by
    intro b hb
    obtain ⟨z', -, hb'⟩ := Outcome.exists_of_mem_right hbuilt hb
    exact ⟨z'.name, hb'.zone⟩
  obtain ⟨b, hb, hbuilds⟩ := Outcome.exists_of_mem_left hbuilt hz
  have hname : b.2.name = z.name :=
    congrArg Prod.fst (SensorChain.isNew_create hbuilds.chain).label
  have hagree : Zones.Agree zones b.2.name none := by
    refine ⟨?_, ?_, ?_⟩
    · rw [hname, ← hbuilds.zone.name]
      exact Zones.mem_keys_of_create hzones (List.mem_map.mpr ⟨b, hb, rfl⟩)
    · exact Zones.forall_create (P := fun name z => z.name = name) hzones fun _ _ => rfl
    · refine Zones.forall_create (P := fun name z => name = b.2.name →
        z.lastVerdict.map Signal.isFailed = none) hzones fun z' hz' _ => ?_
      obtain ⟨b', hb', rfl⟩ := List.mem_map.mp hz'
      obtain ⟨_, hb''⟩ := hnew b' hb'
      rw [hb''.lastVerdict]
      rfl
  have hopening : Tracks (opening config zones' (built.map Prod.snd) ambient scheduler)
      b.2.name none := ⟨hagree.retain hretain, rfl, Table.sorted_nil⟩
  refine ⟨b.2, hbuilds.chain, ?_, ?_, (steady_tracks _ _).announceAll events hopening⟩
  · rw [chains_announceAll]
    exact hlabels
  · rw [chains_announceAll]
    exact List.mem_map.mpr ⟨b, hb, rfl⟩

/-! ## Safe failure -/

/-- What was given holds no value that is less than a timeout old. -/
def IsSilent (given : List (Signal ν)) (timeout : Span) (now : Instant) : Prop :=
  ∀ out ∈ given, out.isFailed = false → timeout ≤ now.spanSince out.time

/-- A zone fails safely.  If its state is not an error, the last that its chain gave was a value,
less than a timeout ago.  If its chain is silent, the zone adds nothing to the demand of the
house, and it is in error as soon as the house is as old as the timeout. -/
structure FailsSafe (r : Replay ν) (name : String) (timeout : Span) (first now : Instant)
    (given : List (Signal ν)) : Prop where
  fresh : ∀ state, r.unit.states.get? name = some state → state ≠ .error →
    ∃ out, given.getLast? = some out ∧ out.isFailed = false ∧ now.spanSince out.time < timeout
  demand : IsSilent given timeout now → ∀ settings,
    (r.unit.arbiter.forget name).demand settings = r.unit.arbiter.demand settings
  error : IsSilent given timeout now → timeout ≤ now.spanSince first →
    r.unit.states.get? name = some .error

omit [Scalar ν] in
theorem states_get? (r : Replay ν) (name : String) :
    r.unit.states.get? name = (r.unit.arbiter.statuses.get? name).map ZoneState.of :=
  Table.get?_map r.unit.arbiter.statuses ZoneState.of name

omit [Scalar ν] in
/-- A value that a watched chain gave last is less than a timeout old. -/
theorem spanSince_of_watches {w : ChainRun ν} {timeout : Span} {first now : Instant}
    (hw : w.Watches timeout first now) {out : Signal ν} (hlast : w.given.getLast? = some out)
    (hvalue : out.isFailed = false) : now.spanSince out.time < timeout := by
  have hsince : w.since? first = some out.time := by
    rw [ChainRun.since?, hlast]
    exact if_neg (by rw [hvalue]; exact Bool.false_ne_true)
  exact (hw.since _ hsince).2.2

omit [Scalar ν] in
/-- A silent chain that is watched did not give a value last. -/
theorem isFailed_of_isSilent {w : ChainRun ν} {timeout : Span} {first now : Instant}
    (hw : w.Watches timeout first now) (hsilent : IsSilent w.given timeout now) {out : Signal ν}
    (hlast : w.given.getLast? = some out) : out.isFailed = true := by
  by_contra hvalue
  rw [Bool.not_eq_true] at hvalue
  exact absurd (spanSince_of_watches hw hlast hvalue)
    (Nat.not_lt_of_le (hsilent out (List.mem_of_getLast? hlast) hvalue))

theorem failsSafe_of_watches {r : Replay ν} {w : ChainRun ν} {name : String} {timeout : Span}
    {first now : Instant} (hw : w.Watches timeout first now) (htracks : r.Tracks name w.failed?) :
    r.FailsSafe name timeout first now w.given where
  fresh := by
    intro state hstate hne
    rw [states_get?] at hstate
    obtain ⟨status, hstatus, rfl⟩ := Option.map_eq_some_iff.mp hstate
    rw [Ne, ZoneState.of_eq_error_iff, Bool.not_eq_true] at hne
    have hfailed := htracks.status
    rw [hstatus, Option.map_some, hne, ChainRun.failed?] at hfailed
    obtain ⟨out, hlast, hvalue⟩ := Option.map_eq_some_iff.mp hfailed.symm
    exact ⟨out, hlast, hvalue, spanSince_of_watches hw hlast hvalue⟩
  demand := by
    intro hsilent settings
    refine Arbiter.demand_forget (fun e he hname => ?_) settings
    subst hname
    have hfound : r.unit.arbiter.statuses.get? e.1 = some e.2 :=
      Table.get?_of_mem htracks.sorted.nodup he
    have hfailed := htracks.status
    rw [hfound, Option.map_some, ChainRun.failed?] at hfailed
    obtain ⟨out, hlast, hsame⟩ := Option.map_eq_some_iff.mp hfailed.symm
    rw [← hsame]
    exact isFailed_of_isSilent hw hsilent hlast
  error := by
    intro hsilent hold
    cases hlast : w.given.getLast? with
    | none =>
        have hsince : w.since? first = some first := by rw [ChainRun.since?, hlast]
        exact absurd (hw.since first hsince).2.2 (Nat.not_lt_of_le hold)
    | some out =>
        have hfailed := htracks.status
        rw [ChainRun.failed?, hlast, Option.map_some, isFailed_of_isSilent hw hsilent hlast]
          at hfailed
        obtain ⟨status, hstatus, hfails⟩ := Option.map_eq_some_iff.mp hfailed
        rw [states_get?, hstatus, Option.map_some, (ZoneState.of_eq_error_iff status).mpr hfails]

end Replay

/-- After every reading of every replay each zone fails safely.  What its chain gave is what the
chain of its configuration gives by itself, and the house has the chain that comes of it. -/
theorem SystemConfig.ReplaysTo.failsSafe {config : SystemConfig ν}
    {readings done : List (Reading ν)} {r : Replay ν} (h : config.ReplaysTo readings done r)
    {first last : Reading ν} (hfirst : done.head? = some first)
    (hlast : done.getLast? = some last) {z : ZoneConfig ν} (hz : z ∈ config.zones) :
    ∃ chain, SensorChain.create z.name z.sensor = .ok chain ∧
      let w := (ChainRun.start chain).run done
      w.chain ∈ r.chains ∧
        r.FailsSafe z.name (Span.millis z.sensor.timeoutMillis) first.time last.time w.given := by
  obtain ⟨opened, house, -, hhouse, hrun⟩ := h.reached
  have hapart := (isDistinct_of_check (Outcome.of_mapError_eq_ok h.accepted)).tellApart
  obtain ⟨chain, hchain, hfollows⟩ := Replay.follows_create hhouse hz
  have hnew := SensorChain.isNew_create hchain
  have hend := hfollows.run hapart hrun
  have hlabel := ((ChainRun.start chain).label_run done).trans hnew.label
  have hname : ((ChainRun.start chain).run done).chain.name = z.name := congrArg Prod.fst hlabel
  refine ⟨chain, hchain, hend.chain, ?_⟩
  exact Replay.failsSafe_of_watches (ChainRun.watches_run hnew hfirst hlast) (hname ▸ hend.tracks)

/-- A cabin whose den has had no reading for 100 seconds when one comes from the roof. -/
theorem SystemConfig.failsSafe_cabin :
    let config : SystemConfig Rat := cabin .cooling 1 none
    let wall : Reading Rat := ⟨.ofEpoch 0 0, "wall", some 22, none⟩
    let roof : Reading Rat := ⟨.ofEpoch 100 0, "roof", some 30, none⟩
    ∃ r, config.ReplaysTo [wall, roof] [wall, roof] r ∧
      r.unit.states.get? "den" = some .error ∧
      ∃ chain, SensorChain.create "den" { sources := ["wall"] } = .ok chain ∧
        r.FailsSafe "den" (Span.millis 90000) wall.time roof.time
          ((ChainRun.start chain).run [wall, roof]).given := by
  intro config wall roof
  have hsorted : Reading.sorted [wall, roof] = [wall, roof] :=
    List.mergeSort_of_pairwise (by decide)
  obtain ⟨r, hr, htest⟩ := exists_replaysTo config wall [roof]
    (fun r => r.unit.states.get? "den" == some .error) rfl hsorted (by decide +kernel)
  have hfirst : [wall, roof].head? = some wall := rfl
  have hlast : [wall, roof].getLast? = some roof := rfl
  obtain ⟨chain, hchain, -, hsafe⟩ := hr.failsSafe hfirst hlast (List.mem_singleton_self _)
  exact ⟨r, hr, by simpa using htest, chain, hchain, hsafe⟩

end HomeClimate
