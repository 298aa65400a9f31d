import HomeClimate.Proofs.House.Moves
import HomeClimate.Proofs.House.SensorChain
import HomeClimate.Proofs.House.StagedChain

/-!
# Houses in which nothing waits

When every queue of a house is empty and no timer is due, its parts do nothing if they are
let to work.  What one reading sets going is then told part by part.

* A line *carries* a chain: its filters are the chain's, between empty queues.  A reading
  goes through the line as it goes through the chain (`SensorLine.settle_feed`).
* A zone with one temperature, or one reading outside, takes that and no more.
* The driver takes all demands that wait, in their order (`House.driveTimes_pending`).

So a house whose lines give nothing but for one of them is a house with that line and one
more queue changed (`House.runLines_one`).
-/

namespace HomeClimate

variable {ν : Type} [Scalar ν]

/-! ## Zones -/

namespace ZoneLoop

theorem settle_start {z : Zone ν} (h : z.wakeUp = false) (now : Instant) :
    (start z).settle now = start z := by
  simp [settle, start, repeated, takeWakeUp, answerWakeUp, Zone.answerWakeUp, h, give]

/-- A zone with one temperature that waits gives its status. -/
theorem settle_sample {z z' : Zone ν} {now : Instant} {sample : Signal ν}
    {status : Signal (ZoneStatus ν)} (h : z.attempt now sample = (z', .ok status))
    (hwake : z'.wakeUp = false) :
    settle { start z with samples := [sample] } now = { start z' with statuses := [status] } := by
  simp [settle, start, repeated, takeSample, answerSample, takeWakeUp, answerWakeUp,
    Zone.answerWakeUp, h, hwake, give]

/-- A zone with one reading outside that waits gives nothing. -/
theorem settle_reading {z z' : Zone ν} {now : Instant} {reading : Signal ν}
    (h : z.recordAmbient now reading = (z', .ok ())) (hwake : z'.wakeUp = false) :
    settle { start z with readings := [reading] } now = start z' := by
  simp [settle, start, repeated, takeReading, takeWakeUp, answerWakeUp, Zone.answerWakeUp, h, hwake,
    give]

end ZoneLoop

theorem Zone.wakeUp_attempt {z z' : Zone ν} {now : Instant} {sample : Signal ν}
    {answer : Except (Fault ν) (Signal (ZoneStatus ν))} (h : z.attempt now sample = (z', answer)) :
    z'.wakeUp = z.wakeUp := by
  obtain ⟨thermostat, lastVerdict, hfst, -⟩ := z.attempt_fst now sample
  rw [h] at hfst
  exact (congrArg Zone.wakeUp hfst :)

theorem Zone.wakeUp_recordAmbient {z z' : Zone ν} {now : Instant} {reading : Signal ν}
    {answer : Except (Fault ν) Unit} (h : z.recordAmbient now reading = (z', answer)) :
    z'.wakeUp = z.wakeUp := by
  have hfst := z.withEconomizer_fst (·.recordAmbient now reading)
  rw [← recordAmbient, h] at hfst
  exact (congrArg Zone.wakeUp hfst :)

/-! ## Lines -/

namespace SensorLine

/-- The line is the chain at work: with nothing in its queues, and a timer that has been set. -/
structure Carries (l : SensorLine ν) (c : SensorChain ν) : Prop where
  name : l.name = c.name
  sources : l.sources = c.sources
  filters : l.filters = .ofStages [.fallback c.fallback, .median c.median, .orderGuard c.order]
  watch : ∃ w, l.watch = some w ∧ 0 < w.guard.timeout ∧ 0 < w.deadline
  isOpen : l.isOpen = true

variable {l : SensorLine ν} {c : SensorChain ν}

omit [Scalar ν] in
theorem carries_start {c : SensorChain ν} (h : 0 < c.silence.timeout) : (start c 0).Carries c :=
  ⟨rfl, rfl, rfl, ⟨_, rfl, h, Nat.lt_of_lt_of_le h (Nat.le_add_left _ _)⟩, rfl⟩

omit [Scalar ν] in
theorem Carries.isBroken (h : l.Carries c) : l.isBroken = false := by
  rw [SensorLine.isBroken, h.filters]
  rfl

theorem Carries.settle (h : l.Carries c) (isTaken : Bool) (elapsed : Span) :
    l.settle isTaken elapsed = (l, []) := by
  obtain ⟨w, hw, -⟩ := h.watch
  obtain ⟨name, sources, filters, watch, isOpen⟩ := l
  have hfilters := h.filters
  simp only at hfilters hw
  subst hfilters hw
  simp [SensorLine.settle, Pipeline.settle, Pipeline.ofStages, Pipeline.drain, Pipeline.feedStage,
    Pipeline.takeOutput, give]

omit [Scalar ν] in
theorem Carries.goOff (h : l.Carries c) (isTaken : Bool) (now : Instant) :
    l.goOff isTaken 0 now = (l, []) := by
  obtain ⟨w, hw, -, hdeadline⟩ := h.watch
  have hdue : ¬ w.deadline ≤ 0 := Nat.not_le.mpr hdeadline
  simp [SensorLine.goOff, timer?, h.isOpen, hw, hdue]

/-- What a chain makes of a reading its line makes of it. -/
theorem Carries.settle_feed (h : l.Carries c) (reading : Signal ν) :
    ∃ l', (l.feed reading).settle true 0 = (l', (c.process reading).2.toList) ∧
      l'.Carries (c.process reading).1 := by
  obtain ⟨w, hw, htimeout, hdeadline⟩ := h.watch
  have hlabel := c.label_process reading
  have hname : l.name = (c.process reading).1.name := h.name.trans (congrArg Prod.fst hlabel).symm
  have hsources : l.sources = (c.process reading).1.sources :=
    h.sources.trans (congrArg Prod.snd hlabel).symm
  have hsettled := Pipeline.settle_push FilterStage.process
    [.fallback c.fallback, .median c.median, .orderGuard c.order] reading
  rw [c.pass_filters, ← h.filters] at hsettled
  rw [SensorLine.settle, feed]
  dsimp only
  rw [hsettled, hw]
  simp only [Pipeline.takeOutput, give, Bool.true_or, if_true]
  refine ⟨_, rfl, hname, hsources, rfl, ?_, h.isOpen⟩
  cases (c.process reading).2 with
  | none => exact ⟨w, rfl, htimeout, hdeadline⟩
  | some out =>
      exact ⟨_, rfl, htimeout, Nat.lt_of_lt_of_le htimeout (Nat.le_add_left _ _)⟩

end SensorLine

/-! ## Houses -/

namespace House

/-! ### Readings that come -/

section Feed

omit [Scalar ν]

/-- No line takes a reading of the source. -/
def IsDeaf (source : String) (lines : List (SensorLine ν)) : Prop :=
  ∀ l ∈ lines, source ∉ l.sources

theorem isDeaf_of_carries {source : String} {lines : List (SensorLine ν)}
    {chains : List (SensorChain ν)} (h : List.Forall₂ SensorLine.Carries lines chains)
    (hdeaf : ∀ c ∈ chains, source ∉ c.sources) : IsDeaf source lines := by
  intro l hl
  obtain ⟨c, hc, hcarries⟩ := Outcome.exists_of_mem_left h hl
  exact hcarries.sources ▸ hdeaf c hc

theorem forall₂_toList {ambient : Option (SensorLine ν)} {outside : Option (SensorChain ν)}
    (h : Option.Rel SensorLine.Carries ambient outside) :
    List.Forall₂ SensorLine.Carries ambient.toList outside.toList := by
  cases h with
  | some hc => exact .cons hc .nil
  | none => exact .nil

theorem map_feed_of_isDeaf {source : String} {lines : List (SensorLine ν)}
    (h : IsDeaf source lines) (reading : Signal ν) :
    (lines.map fun l => if l.sources.contains source then l.feed reading else l) = lines := by
  refine (List.map_congr_left fun l hl => ?_).trans (List.map_id lines)
  rw [if_neg (by simpa using h l hl)]
  rfl

theorem map_feed_ambient {source : String} {ambient : Option (SensorLine ν)}
    (h : IsDeaf source ambient.toList) (reading : Signal ν) :
    (ambient.map fun l => if l.sources.contains source then l.feed reading else l) = ambient := by
  cases ambient with
  | none => rfl
  | some l =>
      rw [Option.map_some, if_neg]
      simpa using h l (Option.mem_toList.mpr rfl)

variable {h : House ν} {source : String} {reading : Signal ν}

theorem mem_sources_iff (hopen : h.isOpen = true) :
    h.sources.contains source = true ↔ ∃ l ∈ h.lines ++ h.ambient.toList, source ∈ l.sources := by
  rw [sources, if_pos hopen, List.contains_iff_mem, List.mem_mergeSort, List.mem_flatMap]

/-- A reading of a source that is known, while no line is broken, is fed to the lines. -/
theorem feed_eq (hopen : h.isOpen = true)
    (hwhole : ∀ l ∈ h.lines ++ h.ambient.toList, l.isBroken = false)
    (hknown : ∃ l ∈ h.lines ++ h.ambient.toList, source ∈ l.sources)
    (hsource : reading.source = some source) :
    h.feed source reading =
      .ok { h with
        lines := h.lines.map fun l => if l.sources.contains source then l.feed reading else l
        ambient :=
          h.ambient.map fun l => if l.sources.contains source then l.feed reading else l } := by
  have hattributed : reading.attributed (some source) = reading := by rw [← hsource]; rfl
  have hbroken : ((h.lines ++ h.ambient.toList).any fun l =>
      l.isBroken && l.sources.contains source) = false :=
    List.any_eq_false.mpr fun l hl => by simp [hwhole l hl]
  rw [feed, hattributed]
  rw [if_pos ((mem_sources_iff hopen).mpr hknown), hbroken]
  rfl

theorem feed_unknown (hopen : h.isOpen = true)
    (hdeaf : IsDeaf source (h.lines ++ h.ambient.toList)) :
    ∃ e, h.feed source reading = .error e := by
  have hunknown : ¬ h.sources.contains source = true := fun hknown => by
    obtain ⟨l, hl, hsource⟩ := (mem_sources_iff hopen).mp hknown
    exact hdeaf l hl hsource
  rw [feed, if_neg hunknown]
  split
  · exact ⟨_, rfl⟩
  · exact ⟨_, rfl⟩

end Feed

/-! ### Lines at work -/

section Lines

omit [Scalar ν]

/-- A line gives nothing and stays as it is. -/
def IsStill (run : Bool → SensorLine ν → SensorLine ν × List (Signal ν)) (l : SensorLine ν) :
    Prop :=
  ∀ isTaken, run isTaken l = (l, [])

variable {run : Bool → SensorLine ν → SensorLine ν × List (Signal ν)}

/-- What lets every line be that carries a chain lets all lines be that carry chains. -/
theorem isStill_of_carries {lines : List (SensorLine ν)} {chains : List (SensorChain ν)}
    (h : List.Forall₂ SensorLine.Carries lines chains)
    (hrun : ∀ (l : SensorLine ν) (c : SensorChain ν), l.Carries c → IsStill run l) :
    ∀ l ∈ lines, IsStill run l := by
  intro l hl
  obtain ⟨c, -, hc⟩ := Outcome.exists_of_mem_left h hl
  exact hrun l c hc

theorem isStill_of_rel {ambient : Option (SensorLine ν)} {outside : Option (SensorChain ν)}
    (h : Option.Rel SensorLine.Carries ambient outside)
    (hrun : ∀ (l : SensorLine ν) (c : SensorChain ν), l.Carries c → IsStill run l) :
    ∀ l, ambient = some l → IsStill run l := by
  rintro l rfl
  cases h with
  | some hc => exact hrun l _ hc

theorem sendSamples_nil (zones : Table String (ZoneLoop ν)) (name : String) :
    sendSamples zones name [] = zones := by
  refine (List.map_congr_left fun e _ => ?_).trans (List.map_id zones)
  simp only [List.append_nil]
  split <;> rfl

theorem sendReadings_nil (zones : Table String (ZoneLoop ν)) : sendReadings zones [] = zones := by
  refine (List.map_congr_left fun e _ => ?_).trans (List.map_id zones)
  simp only [List.map_nil, List.append_nil]
  rfl

/-- Zones that take what the lines give, one line after the other. -/
def sendAll (zones : Table String (ZoneLoop ν)) (given : List (SensorLine ν × List (Signal ν))) :
    Table String (ZoneLoop ν) :=
  given.foldl (fun zones e => sendSamples zones e.1.name e.2) zones

theorem sendAll_append (zones : Table String (ZoneLoop ν))
    (given more : List (SensorLine ν × List (Signal ν))) :
    sendAll zones (given ++ more) = sendAll (sendAll zones given) more := List.foldl_append

theorem runLines_eq (h : House ν) :
    h.runLines run =
      { h with
        lines := (h.lines.map fun l => run (h.takesSamples l.name) l).map Prod.fst
        ambient := h.ambient.map fun l => (run true l).1
        zones := sendReadings (sendAll h.zones (h.lines.map fun l => run (h.takesSamples l.name) l))
          ((h.ambient.map fun l => (run true l).2).getD []) } := by
  rw [runLines]
  cases h.ambient with
  | none => rfl
  | some l => rfl

theorem sendAll_still (zones : Table String (ZoneLoop ν)) {lines : List (SensorLine ν)}
    (h : ∀ l ∈ lines, IsStill run l) (isTaken : SensorLine ν → Bool) :
    sendAll zones (lines.map fun l => run (isTaken l) l) = zones ∧
      (lines.map fun l => run (isTaken l) l).map Prod.fst = lines := by
  induction lines with
  | nil => exact ⟨rfl, rfl⟩
  | cons l lines ih =>
      obtain ⟨hl, hlines⟩ := List.forall_mem_cons.mp h
      obtain ⟨hzones, hfst⟩ := ih hlines
      rw [List.map_cons, hl (isTaken l), sendAll, List.foldl_cons, sendSamples_nil, List.map_cons,
        hfst]
      exact ⟨hzones, rfl⟩

/-- Sensors outside that give nothing, if there are any. -/
theorem ambient_still {ambient : Option (SensorLine ν)}
    (h : ∀ l, ambient = some l → IsStill run l) :
    (ambient.map fun l => (run true l).1) = ambient ∧
      (ambient.map fun l => (run true l).2).getD [] = [] := by
  cases ambient with
  | none => exact ⟨rfl, rfl⟩
  | some l =>
      rw [Option.map_some, Option.map_some, h l rfl true]
      exact ⟨rfl, rfl⟩

theorem runLines_still {h : House ν} (hlines : ∀ l ∈ h.lines, IsStill run l)
    (hambient : ∀ l, h.ambient = some l → IsStill run l) : h.runLines run = h := by
  obtain ⟨hzones, hfst⟩ := sendAll_still h.zones hlines fun l => h.takesSamples l.name
  obtain ⟨hambient, hgiven⟩ := ambient_still hambient
  rw [runLines_eq, hfst, hzones, hambient, hgiven, sendReadings_nil]

/-- Of all lines only one gives something. -/
theorem runLines_one {h : House ν} {before after : List (SensorLine ν)} {l l' : SensorLine ν}
    {out : List (Signal ν)} (hlines : h.lines = before ++ l :: after)
    (hbefore : ∀ k ∈ before, IsStill run k) (hafter : ∀ k ∈ after, IsStill run k)
    (hl : run (h.takesSamples l.name) l = (l', out))
    (hambient : ∀ k, h.ambient = some k → IsStill run k) :
    h.runLines run =
      { h with lines := before ++ l' :: after, zones := sendSamples h.zones l'.name out } := by
  obtain ⟨hzones, hfst⟩ := sendAll_still h.zones hbefore fun l => h.takesSamples l.name
  obtain ⟨hzones', hfst'⟩ :=
    sendAll_still (sendSamples h.zones l'.name out) hafter fun l => h.takesSamples l.name
  obtain ⟨hambient, hgiven⟩ := ambient_still hambient
  rw [runLines_eq, hambient, hgiven, sendReadings_nil, hlines, List.map_append, List.map_cons, hl,
    List.map_append, List.map_cons, hfst, hfst', sendAll_append, hzones, sendAll, List.foldl_cons]
  exact congrArg (fun zones => { h with lines := before ++ l' :: after, zones }) hzones'

/-- Only the line of the sensors outside gives something. -/
theorem runLines_ambient {h : House ν} {l l' : SensorLine ν} {out : List (Signal ν)}
    (hambient : h.ambient = some l) (hl : run true l = (l', out))
    (hlines : ∀ k ∈ h.lines, IsStill run k) :
    h.runLines run = { h with ambient := some l', zones := sendReadings h.zones out } := by
  obtain ⟨hzones, hfst⟩ := sendAll_still h.zones hlines fun l => h.takesSamples l.name
  rw [runLines_eq, hfst, hzones, hambient, Option.map_some, Option.map_some, hl, Option.getD_some]

end Lines

theorem isStill_settle {l : SensorLine ν} {c : SensorChain ν} (h : l.Carries c) (elapsed : Span) :
    IsStill (fun isTaken l => l.settle isTaken elapsed) l := fun isTaken => h.settle isTaken elapsed

/-! ### Zones at work -/

/-- A zone of the house at work, and what it gives. -/
def work (now : Instant) (e : String × ZoneLoop ν) :
    (String × ZoneLoop ν) × List (Signal (ZoneStatus ν)) :=
  ((e.1, (e.2.settle now).takeStatuses.1), (e.2.settle now).takeStatuses.2)

theorem runZones_eq (h : House ν) :
    h.runZones = (h.zones.flatMap fun e => (work h.now e).2).foldl arbitrate
      { h with zones := h.zones.map fun e => (work h.now e).1 } := by
  rw [runZones]
  simp only [List.map_map, List.flatMap_map]
  rfl

/-- No zone gives a status. -/
theorem runZones_silent {h : House ν} (hsilent : ∀ e ∈ h.zones, (work h.now e).2 = []) :
    h.runZones = { h with zones := h.zones.map fun e => (work h.now e).1 } := by
  rw [runZones_eq, List.flatMap_eq_nil_iff.mpr hsilent, List.foldl_nil]

/-- Only one zone works, and it gives one status. -/
theorem runZones_one {h : House ν} {before after : Table String (ZoneLoop ν)}
    {e e' : String × ZoneLoop ν} {status : Signal (ZoneStatus ν)}
    (hzones : h.zones = before ++ e :: after) (hbefore : ∀ k ∈ before, work h.now k = (k, []))
    (hafter : ∀ k ∈ after, work h.now k = (k, [])) (he : work h.now e = (e', [status])) :
    h.runZones = arbitrate { h with zones := before ++ e' :: after } status := by
  have hstill : ∀ zones : Table String (ZoneLoop ν), (∀ k ∈ zones, work h.now k = (k, [])) →
      (zones.map fun k => (work h.now k).1) = zones ∧
        (zones.flatMap fun k => (work h.now k).2) = [] := by
    intro zones hstill
    refine ⟨(List.map_congr_left fun k hk => ?_).trans (List.map_id zones),
      List.flatMap_eq_nil_iff.mpr fun k hk => ?_⟩
    · rw [hstill k hk]
      rfl
    · rw [hstill k hk]
  obtain ⟨hbefore, hnone⟩ := hstill before hbefore
  obtain ⟨hafter, hnone'⟩ := hstill after hafter
  rw [runZones_eq, hzones, List.map_append, List.map_cons, List.flatMap_append, List.flatMap_cons,
    hbefore, hafter, hnone, hnone', he]
  rfl

/-- Zones for which nothing waits. -/
def startAll (zones : Zones ν) : Table String (ZoneLoop ν) := zones.map fun e => (e.1, .start e.2)

omit [Scalar ν] in
theorem keys_startAll (zones : Zones ν) : (startAll zones).keys = zones.keys := by
  rw [Table.keys, startAll, List.map_map]
  rfl

omit [Scalar ν] in
theorem startAll_middle (before after : Zones ν) (e : String × Zone ν) :
    startAll (before ++ e :: after) = startAll before ++ (e.1, .start e.2) :: startAll after := by
  rw [startAll, List.map_append, List.map_cons]
  rfl

theorem work_start {zones : Zones ν} (hasleep : ∀ e ∈ zones, e.2.wakeUp = false) (now : Instant) :
    ∀ e ∈ startAll zones, work now e = (e, []) := by
  intro e he
  obtain ⟨e₀, he₀, rfl⟩ := List.mem_map.mp he
  rw [work, ZoneLoop.settle_start (hasleep e₀ he₀)]
  rfl

theorem runZones_start {h : House ν} {zones : Zones ν} (hzones : h.zones = startAll zones)
    (hasleep : ∀ e ∈ zones, e.2.wakeUp = false) : h.runZones = h := by
  have hwork : ∀ e ∈ h.zones, work h.now e = (e, []) := hzones ▸ work_start hasleep h.now
  have hsame : (h.zones.map fun e => (work h.now e).1) = h.zones :=
    (List.map_congr_left fun e he => congrArg Prod.fst (hwork e he)).trans (List.map_id _)
  rw [runZones_silent fun e he => congrArg Prod.snd (hwork e he), hsame]

/-- A sample that waits for one of the zones gives its status. -/
theorem runZones_sample {h : House ν} {before after : Zones ν} {name : String} {z z' : Zone ν}
    {sample : Signal ν} {status : Signal (ZoneStatus ν)}
    (hzones : h.zones = startAll (before ++ (name, z) :: after))
    (hkeys : (Table.keys (before ++ (name, z) :: after)).Nodup)
    (hasleep : ∀ e ∈ before ++ (name, z) :: after, e.2.wakeUp = false)
    (hattempt : z.attempt h.now sample = (z', .ok status)) :
    House.runZones { h with zones := sendSamples h.zones name [sample] } =
      arbitrate { h with zones := startAll (before ++ (name, z') :: after) } status := by
  obtain ⟨hbefore, hz, hafter⟩ : (∀ e ∈ before, e.2.wakeUp = false) ∧ z.wakeUp = false ∧
      ∀ e ∈ after, e.2.wakeUp = false := by simpa [or_imp, forall_and] using hasleep
  have hwake : z'.wakeUp = false := (Zone.wakeUp_attempt hattempt).trans hz
  have hwaits : sendSamples h.zones name [sample] =
      startAll before ++ (name, { ZoneLoop.start z with samples := [sample] }) ::
        startAll after := by
    rw [← keys_startAll, startAll_middle] at hkeys
    rw [hzones, startAll_middle, sendSamples, Table.modify_middle hkeys]
    rfl
  have hwork : work h.now (name, { ZoneLoop.start z with samples := [sample] }) =
      ((name, .start z'), [status]) := by
    rw [work, ZoneLoop.settle_sample hattempt hwake]
    rfl
  rw [hwaits, startAll_middle]
  exact runZones_one rfl (work_start hbefore h.now) (work_start hafter h.now) hwork

/-- A reading outside that waits for all zones gives nothing. -/
theorem runZones_reading {h : House ν} {zones zones' : Zones ν} {reading : Signal ν}
    (hzones : h.zones = startAll zones) (hasleep : ∀ e ∈ zones, e.2.wakeUp = false)
    (htaken : Table.Related (fun z z' : Zone ν =>
      z.recordAmbient h.now (reading.attributed none) = (z', .ok ())) zones zones') :
    House.runZones { h with zones := sendReadings h.zones [reading] } =
      { h with zones := startAll zones' } := by
  have hwork : List.Forall₂ (fun (l l' : String × ZoneLoop ν) => work h.now l = (l', []))
      (sendReadings h.zones [reading]) (startAll zones') := by
    rw [hzones, sendReadings, startAll, List.map_map, startAll, List.forall₂_map_left_iff,
      List.forall₂_map_right_iff]
    have hawaits := (List.forall₂_and_left _ _).mpr ⟨hasleep, htaken⟩
    refine hawaits.imp fun e e' ⟨hwake, hname, htake⟩ => ?_
    have hwake' : e'.2.wakeUp = false := (Zone.wakeUp_recordAmbient htake).trans hwake
    show work h.now (e.1, { ZoneLoop.start e.2 with readings := [reading.attributed none] }) = _
    rw [work, ZoneLoop.settle_reading htake hwake', hname]
    rfl
  have hsilent : ∀ l ∈ sendReadings h.zones [reading], (work h.now l).2 = [] := by
    intro l hl
    obtain ⟨l', -, hl'⟩ := Outcome.exists_of_mem_left hwork hl
    rw [hl']
  have hsame : ((sendReadings h.zones [reading]).map fun l => (work h.now l).1) =
      startAll zones' := by
    rw [← List.forall₂_eq_eq_eq, List.forall₂_map_left_iff]
    exact hwork.imp fun l l' hl => by rw [hl]
  rw [runZones_silent hsilent, ← hsame]
  rfl

/-! ### The driver at work -/

theorem driveTimes_nil {h : House ν} (hpending : h.pending = []) :
    driveTimes h.pending.length h = h := by
  rw [hpending]
  rfl

theorem driveTimes_pending {h : House ν} (hopen : h.isClosed = false) :
    driveTimes h.pending.length h =
      { h with
        pending := []
        issued := h.issued ++ h.pending.map (unitCommand h.control.mode)
        announced := h.announced ++
          h.pending.map fun demand => demand.withValue (unitCommand h.control.mode demand) } := by
  obtain ⟨pending, hpending⟩ : ∃ pending, h.pending = pending := ⟨_, rfl⟩
  induction pending generalizing h with
  | nil =>
      rw [hpending]
      simp only [List.length_nil, driveTimes, List.map_nil, List.append_nil]
      rw [← hpending]
  | cons demand rest ih =>
      have hdrive : h.drive =
          { h with
            pending := rest
            issued := h.issued ++ [unitCommand h.control.mode demand]
            announced := h.announced ++
              [demand.withValue (unitCommand h.control.mode demand)] } := by
        simp [drive, hpending, hopen]
      have hrest := ih (h := h.drive) (by rw [hdrive]; exact hopen) (by rw [hdrive])
      rw [hpending, List.length_cons, driveTimes]
      rw [hdrive] at hrest ⊢
      rw [hrest]
      simp [List.append_assoc]

end House

end HomeClimate
