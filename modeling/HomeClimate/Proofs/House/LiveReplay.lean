import HomeClimate.Proofs.House.Quiet
import HomeClimate.Proofs.House.Undisturbed

/-!
# Live and replayed

A house that runs and a replay are put together from the same parts in two ways: with
queues and timers, and as one loop.  A house *mirrors* a replay if its zones, its lines and
its control are those of the replay and nothing waits in it.

A reading keeps it so (`Mirrors.take`).  In the replay the reading goes to one chain, the
chain gives a zone a sample, or all economizers a reading, and a status goes to the
control.  In the house the same happens from queue to queue, since no other line has the
source.  What the replay does besides, to look at the schedule and to ask every chain about
silence, comes to nothing: there is no schedule, and no chain has waited as long as its
timeout.

So as long as there is no schedule, and the readings lie closer together than every
timeout, the unit gets the same commands (`live_as_replayed`).
-/

namespace HomeClimate

variable {ν : Type} [Scalar ν]

/-! ## Houses that mirror a replay -/

omit [Scalar ν] in
theorem SensorLine.Carries.check {l : SensorLine ν} {c : SensorChain ν} (h : l.Carries c)
    (now : Instant) : l.Carries (c.check now).1 :=
  ⟨h.name.trans (congrArg Prod.fst (c.label_check now)).symm, h.sources, h.filters, h.watch,
    h.isOpen⟩

/-- A scheduler that neither has nor fetches a schedule does nothing to zones. -/
theorem SchedulerLoop.act_unscheduled {l : SchedulerLoop ν} (h : l.scheduler.schedules = [])
    (hsource : l.source.schedules = []) (zones : Zones ν) (elapsed : Span) (now : Instant) :
    ∃ l', l.act zones elapsed now = (l', zones, []) ∧ l'.scheduler.schedules = [] ∧
      l'.source.schedules = [] := by
  obtain ⟨scheduler, ⟨schedules, failures⟩, nextPoll, nextTick⟩ := l
  obtain ⟨settings, known, current, held⟩ := scheduler
  simp only at h hsource
  subst h hsource
  rw [act]
  simp only [poll, SchedulerLoop.tick, Scheduler.update, Scheduler.tick]
  split_ifs <;> exact ⟨_, rfl, rfl, rfl⟩

namespace House

/-- The house with its clock set. -/
def setClock (h : House ν) (now : Instant) : House ν := { h with started := now }

/-- The house with a reading in the line of its source.  One of a source that is not known is
rejected. -/
def accept (h : House ν) (reading : Reading ν) : House ν :=
  match h.feed reading.source reading.signal with
  | .ok h => h
  | .error _ => h

/-- The house after a reading came at its time and nothing was left to do.  Its timers stand
still. -/
def take (h : House ν) (reading : Reading ν) : House ν :=
  ((h.setClock reading.time).accept reading).idle

/-- The house after some readings came, each when nothing was left to do for the one before. -/
def takeAll (h : House ν) (readings : List (Reading ν)) : House ν := readings.foldl take h

/-- A house that is put together as a replay is, in which nothing waits and no timer is due. -/
structure Mirrors (h : House ν) (r : Replay ν) : Prop where
  zones : h.zones = startAll r.zones
  lines : List.Forall₂ SensorLine.Carries h.lines r.chains
  ambient : Option.Rel SensorLine.Carries h.ambient r.ambient
  control : h.control = r.unit
  issued : h.issued = r.commands.map UnitRecord.command
  pending : h.pending = []
  elapsed : h.elapsed = 0
  isOpen : h.isOpen = true
  isClosed : h.isClosed = false
  unscheduled : h.scheduling.scheduler.schedules = []
  unfetched : h.scheduling.source.schedules = []

variable {h : House ν} {r r' : Replay ν} {times : Instant → Prop}

omit [Scalar ν] in
theorem Mirrors.keys (hm : h.Mirrors r) : h.zones.keys = r.zones.keys := by
  rw [hm.zones, keys_startAll]

omit [Scalar ν] in
theorem Mirrors.zoneTable (hm : h.Mirrors r) : h.zoneTable = r.zones := by
  rw [House.zoneTable, hm.zones, startAll, List.map_map]
  exact List.map_id r.zones

omit [Scalar ν] in
theorem Mirrors.takesSamples (hm : h.Mirrors r) {name : String} (hname : name ∈ r.zones.keys) :
    h.takesSamples name = true := by
  obtain ⟨z, hz⟩ := Table.exists_get? hname
  rw [House.takesSamples, hm.zones, startAll, Table.get?_map, hz]
  rfl

/-! ### Both changed alike -/

section Alike

omit [Scalar ν]

theorem Mirrors.of_parts (hm : h.Mirrors r) (hzones : r'.zones = r.zones)
    (hchains : r'.chains = r.chains) (hambient : r'.ambient = r.ambient) (hunit : r'.unit = r.unit)
    (hcommands : r'.commands = r.commands) : h.Mirrors r' :=
  ⟨hzones ▸ hm.zones, hchains ▸ hm.lines, hambient ▸ hm.ambient, hunit ▸ hm.control,
    hcommands ▸ hm.issued, hm.pending, hm.elapsed, hm.isOpen, hm.isClosed, hm.unscheduled,
    hm.unfetched⟩

theorem Mirrors.setClock (hm : h.Mirrors r) {now : Instant} : (h.setClock now).Mirrors r :=
  ⟨hm.zones, hm.lines, hm.ambient, hm.control, hm.issued, hm.pending, hm.elapsed, hm.isOpen,
    hm.isClosed, hm.unscheduled, hm.unfetched⟩

theorem Mirrors.setZones (hm : h.Mirrors r) (zones : Zones ν) :
    House.Mirrors { h with zones := startAll zones } { r with zones } :=
  ⟨rfl, hm.lines, hm.ambient, hm.control, hm.issued, hm.pending, hm.elapsed, hm.isOpen, hm.isClosed,
    hm.unscheduled, hm.unfetched⟩

theorem Mirrors.setLines (hm : h.Mirrors r) {lines : List (SensorLine ν)}
    {chains : List (SensorChain ν)} (hlines : List.Forall₂ SensorLine.Carries lines chains) :
    House.Mirrors { h with lines } { r with chains } :=
  ⟨hm.zones, hlines, hm.ambient, hm.control, hm.issued, hm.pending, hm.elapsed, hm.isOpen,
    hm.isClosed, hm.unscheduled, hm.unfetched⟩

theorem Mirrors.setAmbient (hm : h.Mirrors r) {line : Option (SensorLine ν)}
    {chain : Option (SensorChain ν)} (hline : Option.Rel SensorLine.Carries line chain) :
    House.Mirrors { h with ambient := line } { r with ambient := chain } :=
  ⟨hm.zones, hm.lines, hline, hm.control, hm.issued, hm.pending, hm.elapsed, hm.isOpen, hm.isClosed,
    hm.unscheduled, hm.unfetched⟩

/-- What a replay notes when it asks about silence a house has no need to note. -/
theorem Mirrors.noted (hm : h.Mirrors r) (now : Instant) : h.Mirrors (r.noted now) := by
  have hlines : List.Forall₂ SensorLine.Carries h.lines (r.chains.map fun c => (c.check now).1) :=
    List.forall₂_map_right_iff.mpr (hm.lines.imp fun l c hc => hc.check now)
  have hambient : Option.Rel SensorLine.Carries h.ambient
      (r.ambient.map fun c => (c.check now).1) := by
    have hcarries := hm.ambient
    revert hcarries
    generalize h.ambient = line
    generalize r.ambient = chain
    rintro (hc | _)
    · exact .some (hc.check now)
    · exact .none
  exact (hm.setLines hlines).setAmbient hambient

end Alike

/-! ### Nothing to do -/

/-- The house after its zones and its driver took what waits for them. -/
def serve (h : House ν) : House ν := driveTimes h.runZones.pending.length h.runZones

theorem settle_eq (h : House ν) :
    h.settle = (h.runLines fun isTaken l => l.settle isTaken h.elapsed).serve := rfl

theorem Mirrors.serve (hm : h.Mirrors r) (hr : r.IsUndisturbed times) : h.serve = h := by
  rw [House.serve, runZones_start hm.zones hr.asleep, driveTimes_nil hm.pending]

/-- Parts for which nothing waits do nothing if they are let to work. -/
theorem Mirrors.settle (hm : h.Mirrors r) (hr : r.IsUndisturbed times) : h.settle = h := by
  have hstill := fun (l : SensorLine ν) (c : SensorChain ν) (hc : l.Carries c) =>
    isStill_settle hc h.elapsed
  rw [settle_eq, runLines_still (isStill_of_carries hm.lines hstill)
    (isStill_of_rel hm.ambient hstill), hm.serve hr]

omit [Scalar ν] in
theorem Mirrors.fireLines (hm : h.Mirrors r) : h.fireLines = h := by
  have hstill : ∀ (l : SensorLine ν) (c : SensorChain ν), l.Carries c →
      IsStill (fun isTaken l => l.goOff isTaken h.elapsed h.now) l :=
    fun l c hc isTaken => hm.elapsed ▸ hc.goOff isTaken h.now
  exact runLines_still (isStill_of_carries hm.lines hstill) (isStill_of_rel hm.ambient hstill)

omit [Scalar ν] in
/-- To put the zones back where they are changes nothing. -/
theorem setZones_zoneTable (h : House ν) (hkeys : h.zones.keys.Nodup) :
    h.setZones h.zoneTable = h := by
  have hsame : (h.zones.map fun e =>
      (e.1, { e.2 with zone := (h.zoneTable.get? e.1).getD e.2.zone })) = h.zones := by
    refine (List.map_congr_left fun e he => ?_).trans (List.map_id _)
    rw [get?_zoneTable, Table.get?_of_mem hkeys he]
    rfl
  rw [setZones, hsame]

theorem Mirrors.fireScheduler (hm : h.Mirrors r) (hr : r.IsUndisturbed times) :
    h.fireScheduler.Mirrors r := by
  obtain ⟨l, hact, hscheduler, hsource⟩ := SchedulerLoop.act_unscheduled hm.unscheduled
    hm.unfetched h.zoneTable h.elapsed h.now
  have hfired : h.fireScheduler = { h with scheduling := l } := by
    rw [House.fireScheduler, hact]
    exact setZones_zoneTable { h with scheduling := l } (hm.keys ▸ hr.keys)
  rw [hfired]
  exact ⟨hm.zones, hm.lines, hm.ambient, hm.control, hm.issued, hm.pending, hm.elapsed, hm.isOpen,
    hm.isClosed, hscheduler, hsource⟩

/-- When the queues of a house are empty and it mirrors a replay, nothing is left to do. -/
theorem Mirrors.idle (hm : h.settle.Mirrors r) (hr : r.IsUndisturbed times) : h.idle.Mirrors r := by
  have hopen : h.isClosed = false := h.moves_settle.isClosed.symm.trans hm.isClosed
  have hfired := hm.fireScheduler hr
  rw [House.idle, if_neg (by rw [hopen]; exact Bool.false_ne_true), hm.fireLines,
    hfired.settle hr]
  exact hfired

/-! ### Samples and readings that come to zones -/

/-- The house mirrors what a replay comes to, unless a controller gives up. -/
def KeepsUp (h : House ν) (times : Instant → Prop) : Except (Fault ν) (Replay ν) → Prop
  | .ok r => r.IsUndisturbed times ∧ h.Mirrors r
  | .error f => f.IsOfController

theorem Mirrors.arbitrate (hm : h.Mirrors r) (status : Signal (ZoneStatus ν)) :
    (driveTimes (h.arbitrate status).pending.length (h.arbitrate status)).Mirrors
      (r.arbitrate status) := by
  have hopen : (h.arbitrate status).isClosed = false := hm.isClosed
  rw [driveTimes_pending hopen]
  refine ⟨hm.zones, hm.lines, hm.ambient, ?_, ?_, rfl, hm.elapsed, hm.isOpen, hm.isClosed,
    hm.unscheduled, hm.unfetched⟩
  · rw [House.arbitrate, hm.zoneTable, hm.control]
    rfl
  · simp only [House.arbitrate, Replay.arbitrate, hm.zoneTable, hm.control, hm.issued, hm.pending]
    cases (r.unit.process r.zones.settings status).2 with
    | none => simp
    | some demand => simp [Replay.recordOf]

/-- A sample that waits for a zone makes of the house what it makes of the replay. -/
theorem Mirrors.sample (hm : h.Mirrors r) (hr : r.IsUndisturbed times) {name : String}
    (hname : name ∈ r.zones.keys) {now : Instant} (hnow : h.now = now) (sample : Signal ν) :
    KeepsUp (House.serve { h with zones := sendSamples h.zones name [sample] }) times
      (r.zoneSample now name sample) := by
  obtain ⟨z, hz⟩ := Table.exists_get? hname
  have hmem := Table.mem_of_get? hz
  obtain ⟨before, after, hsplit⟩ := List.append_of_mem hmem
  rw [Replay.zoneSample, hz]
  dsimp only
  rw [Zone.compute]
  cases ha : z.attempt now sample with
  | mk z' answer =>
      cases answer with
      | error f => exact Zone.attempt_isOfController (congrArg Prod.snd ha)
      | ok status =>
          have hkeys := hr.keys
          have hasleep := hr.asleep
          rw [hsplit] at hkeys hasleep
          -- House and replay are split alike, at the zone that has something to do.
          have hset : (r.zones.modify name fun _ => z') = before ++ (name, z') :: after := by
            rw [hsplit, Table.modify_middle hkeys]
          have hr₁ := hr.setZones (Table.keys_modify r.zones name fun _ => z')
            (Table.forall_modify (P := fun _ z => z.wakeUp = false)
              (fun e he _ => hr.asleep e he)
              fun _ _ => (Zone.wakeUp_attempt ha).trans (hr.asleep _ hmem))
          refine ⟨hr₁.arbitrate status, ?_⟩
          rw [House.serve, runZones_sample (hm.zones.trans (congrArg startAll hsplit)) hkeys
            hasleep (hnow.symm ▸ ha), ← hset]
          exact (hm.setZones _).arbitrate status

/-- A reading outside that waits for all zones makes of the house what it makes of the replay. -/
theorem Mirrors.reading (hm : h.Mirrors r) (hr : r.IsUndisturbed times) {now : Instant}
    (hnow : h.now = now) (reading : Signal ν) :
    KeepsUp (House.serve { h with zones := sendReadings h.zones [reading] }) times
      (r.ambientSample now reading) := by
  subst hnow
  cases hsample : r.ambientSample h.now reading with
  | error f =>
      rcases Outcome.of_bind_eq_error hsample with hzones | ⟨_, -, hdone⟩
      · obtain ⟨e, -, he⟩ := Outcome.exists_of_mapM_eq_error hzones
        rcases Outcome.of_bind_eq_error he with hz | ⟨_, -, hdone⟩
        · exact Zone.recordAmbient_isOfController (Outcome.of_map_eq_error hz)
        · cases hdone
      · cases hdone
  | ok r' =>
      obtain ⟨zones, hzones, hdone⟩ := Outcome.of_bind_eq_ok hsample
      cases hdone
      have htaken : Table.Related (fun z z' : Zone ν =>
          z.recordAmbient h.now (reading.attributed none) = (z', .ok ())) r.zones zones := by
        refine (Outcome.forall₂_of_mapM hzones).imp fun e e' he => ?_
        obtain ⟨⟨z, _⟩, hz, he⟩ := Outcome.of_bind_eq_ok he
        cases he
        obtain ⟨_, hanswer, heq⟩ := Outcome.of_map_eq_ok hz
        cases heq
        exact ⟨rfl, Prod.ext rfl hanswer⟩
      have hasleep : ∀ e ∈ zones, e.2.wakeUp = false := by
        intro e he
        obtain ⟨e₀, he₀, -, htake⟩ := Outcome.exists_of_mem_right htaken he
        exact (Zone.wakeUp_recordAmbient htake).trans (hr.asleep e₀ he₀)
      have hr₁ := hr.setZones htaken.keys hasleep
      refine ⟨hr₁, ?_⟩
      rw [House.serve, runZones_reading hm.zones hr.asleep htaken]
      exact (driveTimes_nil (hm.setZones zones).pending).symm ▸ hm.setZones zones

/-! ### The way of a reading -/

section Way

omit [Scalar ν]

/-- All lines of the house carry all chains of the replay. -/
theorem Mirrors.carries (hm : h.Mirrors r) : List.Forall₂ SensorLine.Carries
    (h.lines ++ h.ambient.toList) (r.chains ++ r.ambient.toList) :=
  List.rel_append hm.lines (forall₂_toList hm.ambient)

theorem Mirrors.accept_known (hm : h.Mirrors r) {reading : Reading ν}
    (hknown : ∃ c ∈ r.chains ++ r.ambient.toList, reading.source ∈ c.sources) :
    h.accept reading =
      { h with
        lines := h.lines.map fun l =>
          if l.sources.contains reading.source then l.feed reading.signal else l
        ambient := h.ambient.map fun l =>
          if l.sources.contains reading.source then l.feed reading.signal else l } := by
  obtain ⟨c, hc, hsource⟩ := hknown
  obtain ⟨l, hl, hcarries⟩ := Outcome.exists_of_mem_right hm.carries hc
  have hwhole : ∀ l ∈ h.lines ++ h.ambient.toList, l.isBroken = false := by
    intro l hl
    obtain ⟨c, -, hcarries⟩ := Outcome.exists_of_mem_left hm.carries hl
    exact hcarries.isBroken
  rw [accept, feed_eq hm.isOpen hwhole ⟨l, hl, hcarries.sources.symm ▸ hsource⟩
    reading.source_signal]

theorem Mirrors.accept_unknown (hm : h.Mirrors r) {reading : Reading ν}
    (hunknown : ∀ c ∈ r.chains ++ r.ambient.toList, reading.source ∉ c.sources) :
    h.accept reading = h := by
  obtain ⟨e, he⟩ : ∃ e, h.feed reading.source reading.signal = .error e :=
    feed_unknown hm.isOpen (isDeaf_of_carries hm.carries hunknown)
  rw [accept, he]

end Way

/-- A reading for the chain of a zone goes through the line of that zone, and what comes out waits
for the zone. -/
theorem Mirrors.settle_line (hm : h.Mirrors r) {reading : Reading ν}
    {before after : List (SensorChain ν)} {c : SensorChain ν}
    (hsplit : r.chains = before ++ c :: after)
    (hzone : c.name ∈ r.zones.keys) (hknown : reading.source ∈ c.sources)
    (hothers : ∀ k ∈ before ++ after ++ r.ambient.toList, reading.source ∉ k.sources) :
    ∃ lines, List.Forall₂ SensorLine.Carries lines
        (before ++ (c.process reading.signal).1 :: after) ∧
      (h.accept reading).settle =
        House.serve { h with
          lines, zones := sendSamples h.zones c.name (c.process reading.signal).2.toList } := by
  simp only [List.mem_append] at hothers
  obtain ⟨lb, l, la, hlines, hbefore, hl, hafter⟩ :
      ∃ lb l la, h.lines = lb ++ l :: la ∧ List.Forall₂ SensorLine.Carries lb before ∧
        l.Carries c ∧ List.Forall₂ SensorLine.Carries la after := by
    have hcarries := hm.lines
    rw [hsplit] at hcarries
    obtain ⟨l, la, hl, hla, hdrop⟩ :=
      List.forall₂_cons_right_iff.mp (List.forall₂_drop_append h.lines before (c :: after) hcarries)
    refine ⟨_, l, la, ?_, List.forall₂_take_append h.lines before (c :: after) hcarries, hl, hla⟩
    rw [← hdrop, List.take_append_drop]
  have haccept : h.accept reading = { h with lines := lb ++ l.feed reading.signal :: la } := by
    have hmem : c ∈ r.chains ++ r.ambient.toList :=
      List.mem_append_left _ (hsplit ▸ List.mem_append_right before List.mem_cons_self)
    rw [hm.accept_known ⟨c, hmem, hknown⟩, hlines, List.map_append, List.map_cons,
      map_feed_of_isDeaf (isDeaf_of_carries hbefore fun k hk => hothers k (.inl (.inl hk))),
      map_feed_of_isDeaf (isDeaf_of_carries hafter fun k hk => hothers k (.inl (.inr hk))),
      map_feed_ambient (isDeaf_of_carries (forall₂_toList hm.ambient) fun k hk =>
        hothers k (.inr hk)),
      if_pos (List.contains_iff_mem.mpr (hl.sources.symm ▸ hknown))]
  -- Only this line has anything to do, and its zone takes what it gives.
  have hstill := fun (l : SensorLine ν) (c : SensorChain ν) (hc : l.Carries c) =>
    isStill_settle hc h.elapsed
  obtain ⟨l', hsettle, hl'⟩ := hl.settle_feed reading.signal
  have htaken : h.takesSamples l.name = true := hm.takesSamples (hl.name.symm ▸ hzone)
  have hname : l'.name = c.name :=
    hl'.name.trans (congrArg Prod.fst (c.label_process reading.signal))
  refine ⟨lb ++ l' :: la, List.rel_append hbefore (.cons hl' hafter), ?_⟩
  rw [haccept, settle_eq, ← hname]
  refine congrArg House.serve (runLines_one rfl (isStill_of_carries hbefore hstill)
    (isStill_of_carries hafter hstill) ?_ (isStill_of_rel hm.ambient hstill))
  show (l.feed reading.signal).settle (h.takesSamples l.name) h.elapsed = _
  rw [htaken, hm.elapsed, hsettle]

/-- A reading for the chain outside goes through its line, and what comes out waits for all
zones. -/
theorem Mirrors.settle_ambient (hm : h.Mirrors r) {reading : Reading ν} {c : SensorChain ν}
    (houtside : r.ambient = some c) (hknown : reading.source ∈ c.sources)
    (hothers : ∀ k ∈ r.chains, reading.source ∉ k.sources) :
    ∃ l : SensorLine ν, l.Carries (c.process reading.signal).1 ∧
      (h.accept reading).settle =
        House.serve { h with
          ambient := some l
          zones := sendReadings h.zones (c.process reading.signal).2.toList } := by
  obtain ⟨l, hambient, hl⟩ : ∃ l, h.ambient = some l ∧ l.Carries c := by
    have hcarries := hm.ambient
    rw [houtside] at hcarries
    revert hcarries
    cases h.ambient with
    | none => exact nofun
    | some l => exact fun | .some hl => ⟨l, rfl, hl⟩
  have haccept : h.accept reading = { h with ambient := some (l.feed reading.signal) } := by
    have hmem : c ∈ r.chains ++ r.ambient.toList :=
      List.mem_append_right _ (houtside ▸ Option.mem_toList.mpr rfl)
    rw [hm.accept_known ⟨c, hmem, hknown⟩, map_feed_of_isDeaf (isDeaf_of_carries hm.lines hothers),
      hambient, Option.map_some, if_pos (List.contains_iff_mem.mpr (hl.sources.symm ▸ hknown))]
  have hstill := fun (l : SensorLine ν) (c : SensorChain ν) (hc : l.Carries c) =>
    isStill_settle hc h.elapsed
  obtain ⟨l', hsettle, hl'⟩ := hl.settle_feed reading.signal
  refine ⟨l', hl', ?_⟩
  rw [haccept, settle_eq]
  refine congrArg House.serve (runLines_ambient rfl ?_ (isStill_of_carries hm.lines hstill))
  show (l.feed reading.signal).settle true h.elapsed = _
  rw [hm.elapsed, hsettle]

/-- A reading makes of a house, when its queues are empty again, what it makes of the replay, unless
a zone faults. -/
theorem Mirrors.route (hm : h.Mirrors r) (hr : r.IsUndisturbed times) {reading : Reading ν}
    (htime : times reading.time) (hnow : h.now = reading.time) :
    (h.accept reading).settle.KeepsUp times (r.route reading) := by
  have hsignal : times reading.signal.time := reading.time_signal.symm ▸ htime
  cases hr.toIsWired.isApart.route reading with
  | chain before after c hsplit hknown hothers hroute =>
      have hmem : c ∈ r.chains := hsplit ▸ List.mem_append_right before List.mem_cons_self
      have hzone : c.name ∈ r.zones.keys := hr.zoned c hmem
      have hname : (c.process reading.signal).1.name = c.name :=
        congrArg Prod.fst (c.label_process reading.signal)
      obtain ⟨lines, hlines, hsettle⟩ := hm.settle_line hsplit hzone hknown hothers
      obtain ⟨hset, hr₁⟩ := hr.setChain hsplit (c.label_process reading.signal)
        ((hr.patient c hmem).process hsignal)
      have hm₁ := hm.setLines hlines
      rw [hroute, hsettle]
      cases hout : (c.process reading.signal).2 with
      | none =>
          rw [Replay.deliver, hset, Option.toList_none, sendSamples_nil]
          exact ⟨hr₁, (hm₁.serve hr₁).symm ▸ hm₁⟩
      | some sample =>
          rw [Replay.deliver, hset, hname]
          exact hm₁.sample hr₁ hzone hnow sample
  | ambient c houtside hknown hothers hroute =>
      obtain ⟨l, hl, hsettle⟩ := hm.settle_ambient houtside hknown hothers
      have hr₁ := hr.setAmbient houtside (c.label_process reading.signal)
        ((hr.patientOutside c houtside).process hsignal)
      have hm₁ := hm.setAmbient (.some hl)
      rw [hroute, hsettle]
      cases hout : (c.process reading.signal).2 with
      | none =>
          rw [Option.toList_none, sendReadings_nil]
          exact ⟨hr₁, (hm₁.serve hr₁).symm ▸ hm₁⟩
      | some sample => exact hm₁.reading hr₁ hnow sample
  | nowhere hothers hroute =>
      rw [hroute, hm.accept_unknown hothers, hm.settle hr]
      exact ⟨hr.of_parts rfl rfl rfl rfl, hm.of_parts rfl rfl rfl rfl rfl⟩

/-! ### Readings, one after the other -/

/-- A reading that comes at its time makes of a house what it makes of the replay. -/
theorem Mirrors.take (hm : h.Mirrors r) (hr : r.IsUndisturbed times) {reading : Reading ν}
    (htime : times reading.time) (hvalid : reading.time.time.isValid = true) :
    (h.take reading).KeepsUp times (r.step reading) := by
  have hr₁ : Replay.IsUndisturbed { r with readings := r.readings + 1 } times :=
    hr.of_parts rfl rfl rfl rfl
  obtain ⟨hcheck, hr₂⟩ := hr₁.checkAll htime
  have hm₁ : (h.setClock reading.time).Mirrors { r with readings := r.readings + 1 } :=
    hm.setClock.of_parts rfl rfl rfl rfl rfl
  have hstep : r.step reading =
      Replay.route (Replay.noted { r with readings := r.readings + 1 } reading.time) reading := by
    rw [Replay.step, hr₁.tick, hcheck]
    rfl
  have hnow : (h.setClock reading.time).now = reading.time := by
    rw [House.now, House.clock, hm₁.elapsed]
    exact Instant.getD_add?_zero hvalid
  have hroute := (hm₁.noted reading.time).route hr₂ htime hnow
  rw [hstep, House.take]
  cases hanswer : Replay.route (Replay.noted { r with readings := r.readings + 1 } reading.time)
      reading with
  | error f =>
      rw [hanswer] at hroute
      exact hroute
  | ok r' =>
      rw [hanswer] at hroute
      exact ⟨hroute.1, hroute.2.idle hroute.1⟩

/-- Readings make of a house, each when nothing is left to do for the one before, what they make of
the replay. -/
theorem Mirrors.takeAll (hm : h.Mirrors r) (hr : r.IsUndisturbed times)
    {readings : List (Reading ν)} (htimes : ∀ reading ∈ readings, times reading.time)
    (hvalid : ∀ reading ∈ readings, reading.time.time.isValid = true) :
    (h.takeAll readings).KeepsUp times (r.run readings) := by
  induction readings generalizing h r with
  | nil => exact ⟨hr, hm⟩
  | cons reading rest ih =>
      obtain ⟨htime, htimes⟩ := List.forall_mem_cons.mp htimes
      obtain ⟨hone, hvalid⟩ := List.forall_mem_cons.mp hvalid
      have htake := hm.take hr htime hone
      rw [House.takeAll, List.foldl_cons, Replay.run, List.foldlM_cons]
      cases hstep : r.step reading with
      | error f =>
          rw [hstep] at htake
          exact htake
      | ok r' =>
          rw [hstep] at htake
          exact ih htake.2 htake.1 htimes hvalid

end House

/-! ## The start -/

/-- A device that can do what is asked of it does not matter to an economizer. -/
theorem Economizer.create_of_modes {name : String} {setup : EconomizerSetup ν}
    {device device' : Device} {e : Economizer ν} (h : create name setup device = .ok e)
    (hmode : device'.modes.contains setup.mode = true) : create name setup device' = .ok e := by
  rw [create] at h ⊢
  split at h
  · cases h
  · rw [if_neg (by simpa using hmode)]
    exact h

theorem ZoneConfig.buildEconomizer_standard {z : ZoneConfig ν}
    {choose : EconomizerConfig ν → Device} {economizer : Option (Economizer ν)}
    (h : z.buildEconomizer (z.economizer.map choose) = .ok economizer) :
    z.buildEconomizer (z.economizer.map fun e => e.standardDevice z.name) = .ok economizer := by
  unfold buildEconomizer at h ⊢
  cases he : z.economizer with
  | none =>
      rw [he] at h
      exact h
  | some e =>
      rw [he] at h
      obtain ⟨made, hmade, rfl⟩ := Outcome.of_map_eq_ok (Outcome.of_mapError_eq_ok h)
      have hmode : (e.standardDevice z.name).modes.contains e.setup.mode = true := by
        simp [EconomizerConfig.standardDevice, EconomizerConfig.setup]
      simp only [Option.map_some, Economizer.create_of_modes hmade hmode]
      rfl

/-- A zone that a house can build a replay can build, and it is the same. -/
theorem Replay.buildZone_of_house {options : HouseOptions ν} {z : ZoneConfig ν}
    {built : Zone ν × SensorChain ν} (h : House.buildZone options z = .ok built) :
    Replay.buildZone z = .ok built := by
  obtain ⟨zone, hzone, h⟩ := Outcome.of_bind_eq_ok h
  obtain ⟨thermostat, hthermostat, hzone⟩ := Outcome.of_bind_eq_ok hzone
  obtain ⟨economizer, heconomizer, hzone⟩ := Outcome.of_bind_eq_ok hzone
  have hstandard := ZoneConfig.buildEconomizer_standard heconomizer
  have hbuild : z.build (z.economizer.map fun e => e.standardDevice z.name) = .ok zone :=
    Outcome.bind_of_eq_ok hthermostat (Outcome.bind_of_eq_ok hstandard hzone)
  exact Outcome.bind_of_eq_ok hbuild h

namespace House

/-- Without a schedule nothing is ever fetched. -/
theorem schedules_of_chooseSource {config : SystemConfig ν} {given : Option (ScheduleSource ν)}
    {source : ScheduleSource ν} (h : chooseSource config given = .ok source)
    (hschedules : config.schedules = .ok [])
    (hgiven : ∀ source, given = some source → source.schedules = []) : source.schedules = [] := by
  cases given with
  | some given =>
      cases h
      exact hgiven _ rfl
  | none =>
      obtain ⟨schedules, hmade, rfl⟩ := Outcome.of_map_eq_ok h
      rw [hschedules] at hmade
      cases hmade
      rfl

/-- A house that starts without a schedule mirrors the replay of its configuration before the first
reading. -/
theorem mirrors_start {config : SystemConfig ν} {options : HouseOptions ν} {now : Instant}
    {house : House ν} {times : Instant → Prop} (h : start config options now = .ok house)
    (hschedule : config.schedule = [])
    (hsource : ∀ source, options.source = some source → source.schedules = [])
    (hwithin : ∀ s ∈ config.sensors, Within times (Span.millis s.timeoutMillis)) (first : Instant) :
    ∃ r, Replay.create config first = .ok r ∧ r.commands = [] ∧ r.IsUndisturbed times ∧
      house.Mirrors r := by
  obtain ⟨_, haccepted, h⟩ := Outcome.of_bind_eq_ok h
  obtain ⟨unit, -, h⟩ := Outcome.of_bind_eq_ok h
  obtain ⟨source, hchosen, h⟩ := Outcome.of_bind_eq_ok h
  obtain ⟨built, hbuilt, h⟩ := Outcome.of_bind_eq_ok h
  obtain ⟨ambient, hambient, h⟩ := Outcome.of_bind_eq_ok h
  obtain ⟨zones, hzones, h⟩ := Outcome.of_bind_eq_ok h
  obtain ⟨scheduler, hscheduler, h⟩ := Outcome.of_bind_eq_ok h
  cases h
  have hschedules : config.schedules = .ok [] := by
    rw [SystemConfig.schedules, hschedule]
    rfl
  have hidle : scheduler.schedules = [] := by
    obtain ⟨_, -, rfl⟩ := Outcome.of_map_eq_ok (Outcome.of_mapError_eq_ok hscheduler)
    rfl
  have hbuilt' := Outcome.mapM_eq_ok_of_imp
    (fun z _ b hb => Replay.buildZone_of_house hb) hbuilt
  have hpieces := Outcome.forall₂_of_mapM hbuilt'
  have houtside := Outcome.forall₂_of_optionMapM hambient
  have hdistinct := SystemConfig.isDistinct_of_check (Outcome.of_mapError_eq_ok haccepted)
  have hcreate : Replay.create config first =
      .ok (Replay.opening config zones (built.map Prod.snd) ambient scheduler) :=
    Outcome.bind_of_eq_ok hbuilt' <| Outcome.bind_of_eq_ok hambient <|
      Outcome.bind_of_eq_ok hscheduler <| Outcome.bind_of_eq_ok hzones <|
        Outcome.bind_of_eq_ok hschedules rfl
  refine ⟨_, hcreate, rfl, Replay.isUndisturbed_opening hdistinct hwithin hpieces
    (Outcome.of_mapError_eq_ok hzones) houtside hidle, ?_⟩
  refine ⟨rfl, ?_, ?_, rfl, rfl, rfl, rfl, rfl, rfl, hidle,
    schedules_of_chooseSource hchosen hschedules hsource⟩
  · refine List.forall₂_map_left_iff.mpr (List.forall₂_map_right_iff.mpr ?_)
    refine List.forall₂_same.mpr fun b hb => SensorLine.carries_start ?_
    obtain ⟨z, -, hz⟩ := Outcome.exists_of_mem_right hpieces hb
    exact (SensorChain.isNew_create (Replay.isBuilt_buildZone hz).1.chain).isPatient
  · show Option.Rel SensorLine.Carries (ambient.map fun c => .start c 0) ambient
    cases ambient with
    | none => exact .none
    | some c =>
        obtain ⟨s, -, hs⟩ := Outcome.exists_of_mem_right houtside (Option.mem_toList.mpr rfl)
        exact .some (SensorLine.carries_start (SensorChain.isNew_create hs).isPatient)

/-- A house that runs without a schedule, over readings that are in order and closer together than
every timeout, gives its unit the commands that the replay of these readings reports.  Nothing keeps
the replay from its report but a controller that gives up. -/
theorem live_as_replayed {config : SystemConfig ν} {options : HouseOptions ν} {now : Instant}
    {house : House ν} {readings : List (Reading ν)}
    (hstart : start config options now = .ok house) (hschedule : config.schedule = [])
    (hsource : ∀ source, options.source = some source → source.schedules = [])
    (hsorted : readings.Pairwise fun a b => a.time ≤ b.time)
    (hvalid : ∀ reading ∈ readings, reading.time.time.isValid = true)
    (hwithin : ∀ s ∈ config.sensors, ∀ a ∈ readings, ∀ b ∈ readings,
      b.time.spanSince a.time < Span.millis s.timeoutMillis) :
    (∀ report, config.replay readings = .ok report →
      (house.takeAll readings).issued = report.commands.map UnitRecord.command) ∧
    ∀ e, config.replay readings = .error e → ∃ f : Fault ν, f.IsOfController ∧ e = .fault f := by
  obtain ⟨_, haccepted, -⟩ := Outcome.of_bind_eq_ok hstart
  have hclose : ∀ s ∈ config.sensors,
      Within (fun t => ∃ reading ∈ readings, reading.time = t) (Span.millis s.timeoutMillis) := by
    rintro s hs t now ⟨a, ha, rfl⟩ ⟨b, hb, rfl⟩
    exact hwithin s hs a ha b hb
  have hinOrder : Reading.sorted readings = readings :=
    List.mergeSort_of_pairwise (hsorted.imp fun hle => decide_eq_true hle)
  cases readings with
  | nil =>
      obtain ⟨r, -, hnone, -, hm⟩ := mirrors_start hstart hschedule hsource hclose now
      have hreplay : config.replay [] = .ok .empty :=
        Outcome.bind_of_eq_ok haccepted (by rw [hinOrder]; rfl)
      rw [hreplay]
      refine ⟨fun report hreport => ?_, fun e he => nomatch he⟩
      cases hreport
      exact hm.issued.trans (congrArg _ hnone)
  | cons first rest =>
      obtain ⟨r, hcreate, -, hr, hm⟩ := mirrors_start hstart hschedule hsource hclose first.time
      have hall := hm.takeAll hr (fun reading hreading => ⟨reading, hreading, rfl⟩) hvalid
      rw [SystemConfig.replay_cons haccepted hinOrder hcreate]
      cases hrun : r.run (first :: rest) with
      | ok r' =>
          rw [hrun] at hall
          refine ⟨fun report hreport => ?_, fun e he => nomatch he⟩
          cases hreport
          exact hall.2.issued
      | error f =>
          rw [hrun] at hall
          refine ⟨fun report hreport => (nomatch hreport), fun e he => ?_⟩
          cases he
          exact ⟨f, hall, rfl⟩

/-- A cabin on a hot day.  The den is too warm, then it turns cold outside and the economizer takes
over, so the unit stops.  Nobody knows the sensor in the attic. -/
theorem live_as_replayed_in_cabin :
    let config : SystemConfig Rat := .cabin .cooling 1 (some .cellar)
    let readings : List (Reading Rat) :=
      [⟨.ofEpoch 0 0, "wall", some 22, none⟩, ⟨.ofEpoch 10 0, "attic", some 40, none⟩,
        ⟨.ofEpoch 20 0, "roof", some 15, none⟩, ⟨.ofEpoch 30 0, "wall", some 24, none⟩]
    ∃ house report, start config {} (.ofEpoch 0 0) = .ok house ∧
      config.replay readings = .ok report ∧
      (report.commands.map fun c => c.command.demand) = [1, 0] ∧
      (house.takeAll readings).issued = report.commands.map UnitRecord.command := by
  intro config readings
  obtain ⟨house, hstart⟩ : Outcome.Succeeds (start config {} (.ofEpoch 0 0)) := by decide +kernel
  have hsorted : Reading.sorted readings = readings := List.mergeSort_of_pairwise (by decide)
  obtain ⟨r, hr, htest⟩ := config.exists_replaysTo _ _
    (fun r => (r.commands.map fun c => c.command.demand) == [1, 0]) rfl hsorted (by decide +kernel)
  have hreached : config.ReplaysTo readings (Reading.sorted readings) r := hsorted.symm ▸ hr
  have hreplay := hreached.replay_eq
  have hagree := (live_as_replayed hstart rfl nofun (by decide) (by decide) (by decide)).1 _ hreplay
  exact ⟨house, r.report, hstart, hreplay, eq_of_beq htest, hagree⟩

end House

end HomeClimate
