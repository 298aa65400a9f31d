import HomeClimate.Proofs.House.Arbitration

/-!
# The order of arrival

The sum of some doubles depends on the order in which they are added.  The demand of a
group does not depend on the order in which the statuses arrived all the same, for the
arbiter adds in the order of the zones.

* A table is known by its lookups (`Table.eq_of_get?`), so the table of statuses is
  known by the last status of each zone.
* The demand is read off this table and the settings of the moment.  What else the
  arbiter keeps has no say in it (`Arbiter.demand_congr`).

Two groups are *alike* if they have the same settings and the same table.  What happens
to both of them leaves them alike and makes the same demand, to the last bit
(`Alike.step`), so they give the same demands for as long as the same happens to them
(`Alike.demands_eq`).
-/

namespace HomeClimate

variable {ν : Type} [Scalar ν]

omit [Scalar ν] in
theorem Zones.keys_settings (zones : Zones ν) : zones.settings.keys = zones.keys := by
  simp only [settings, Table.keys, List.map_map]
  rfl

omit [Scalar ν] in
theorem Zones.settings_modify (zones : Zones ν) (name : String) (z : Zone ν) :
    Zones.settings (zones.modify name fun _ => z) =
      zones.settings.modify name fun _ => z.settings := by
  simp only [Zones.settings, Table.modify, List.map_map]
  refine List.map_congr_left fun e _ => ?_
  simp only [Function.comp_apply]
  split <;> rfl

/-- The demand is a matter of the statuses and of the settings of the moment. -/
theorem Arbiter.demand_congr {a a' : Arbiter ν} (h : a'.statuses = a.statuses)
    (settings : List (ZoneSettings ν)) : a'.demand settings = a.demand settings := by
  have hasking : a'.asking = a.asking := by rw [asking, asking, h]
  rw [demand, demand, votes, votes, hasking]

namespace ZoneGroup

@[simp] theorem zones_process (g : ZoneGroup ν) (status : Signal (ZoneStatus ν)) :
    (g.process status).1.zones = g.zones := rfl

/-! ## What a group gives -/

/-- The demand that a group gives at an event. -/
def given? (g : ZoneGroup ν) : GroupEvent ν → Option (Signal (UnitDemand ν))
  | .status s => (g.process s).2
  | .change _ => none

/-- The demands that a group gives at some events, the first one first. -/
def demands (g : ZoneGroup ν) : List (GroupEvent ν) → List (Signal (UnitDemand ν))
  | [] => []
  | event :: rest => (g.given? event).toList ++ (g.step event).demands rest

/-! ## Groups that are alike -/

/-- Two groups that differ in nothing that a demand is made of. -/
structure Alike (g g' : ZoneGroup ν) : Prop where
  settings : g'.zones.settings = g.zones.settings
  statuses : g'.arbiter.statuses = g.arbiter.statuses

omit [Scalar ν] in
/-- Groups that remember the last statuses of the same zones, and with the same settings, are
alike. -/
theorem Remembers.alike {g g' : ZoneGroup ν} {names names' : List String}
    {heard heard' : List (Signal (ZoneStatus ν))} (h : g.Remembers names heard)
    (h' : g'.Remembers names' heard') (hsettings : g'.zones.settings = g.zones.settings)
    (hlatest : ∀ name ∈ names, latest? heard' name = latest? heard name) : g.Alike g' := by
  have hknown : ∀ name, name ∈ names' ↔ name ∈ names := by
    intro name
    rw [← h.keys, ← h'.keys, ← has_settings, ← has_settings, hsettings]
  refine ⟨hsettings, Table.eq_of_get? h'.sorted h.sorted fun name => ?_⟩
  rw [h.statuses, h'.statuses]
  by_cases hname : name ∈ names
  · rw [if_pos hname, if_pos ((hknown name).mpr hname), hlatest name hname]
  · rw [if_neg hname, if_neg fun hname' => hname ((hknown name).mp hname')]

theorem Alike.process {g g' : ZoneGroup ν} (h : g.Alike g') (status : Signal (ZoneStatus ν)) :
    (g'.process status).2 = (g.process status).2 ∧
      (g.process status).1.Alike (g'.process status).1 := by
  have hkeys : g'.zones.keys = g.zones.keys := by
    rw [← Zones.keys_settings, ← Zones.keys_settings, h.settings]
  by_cases hknown : ∃ name ∈ g.zones.keys, status.source = some name
  · obtain ⟨name, hmem, hsource⟩ := hknown
    have hinsert : (g'.arbiter.record name status).statuses =
        (g.arbiter.record name status).statuses :=
      congrArg (Table.insert name status) h.statuses
    rw [process_of_known hsource hmem, process_of_known hsource (hkeys ▸ hmem), h.settings,
      Arbiter.demand_congr hinsert]
    exact ⟨rfl, h.settings, hinsert⟩
  · have hunknown : ∀ name ∈ g.zones.keys, status.source ≠ some name :=
      fun name hmem hsource => hknown ⟨name, hmem, hsource⟩
    rw [process_of_unknown hunknown, process_of_unknown (hkeys ▸ hunknown)]
    exact ⟨rfl, h⟩

/-- What happens to both of two groups that are alike makes the same demand and leaves them
alike. -/
theorem Alike.step {g g' : ZoneGroup ν} (h : g.Alike g') (event : GroupEvent ν) :
    g'.given? event = g.given? event ∧ (g.step event).Alike (g'.step event) := by
  cases event with
  | status s => exact h.process s
  | change z =>
      refine ⟨rfl, ?_, h.statuses⟩
      simp only [ZoneGroup.step, setZone, Zones.settings_modify, h.settings]

theorem Alike.demands_eq {g g' : ZoneGroup ν} (h : g.Alike g') (events : List (GroupEvent ν)) :
    g'.demands events = g.demands events := by
  induction events generalizing g g' with
  | nil => rfl
  | cons event rest ih =>
      obtain ⟨hgiven, hnext⟩ := h.step event
      rw [demands, demands, hgiven, ih hnext]

/-! ## Arrival -/

/-- Whatever arrived at two groups, and in whatever order: if it left the same last status of each
zone, and the zones have the same settings at the moment, both give the same demand for the next
status, and the same demands from then on.  A status of no zone of the group leaves the group as it
was, and no demand that comes later tells that it was there. -/
theorem demands_of_same_latest {zones zones' : List (Zone ν)} {g g' : ZoneGroup ν}
    (h : create zones = .ok g) (h' : create zones' = .ok g') (events events' : List (GroupEvent ν))
    (hsettings : (g'.after events').zones.settings = (g.after events).zones.settings)
    (hlatest : ∀ name ∈ zones.map Zone.name,
      latest? (events'.filterMap GroupEvent.status?) name =
        latest? (events.filterMap GroupEvent.status?) name) :
    (∀ status, ((g'.after events').process status).2 = ((g.after events).process status).2) ∧
    (∀ later, (g'.after events').demands later = (g.after events).demands later) ∧
    ∀ status, (∀ name ∈ zones.map Zone.name, status.source ≠ some name) →
      (g.after events).process status = (g.after events, none) ∧
        ∀ later, (g.after events).demands (.status status :: later) =
          (g.after events).demands later := by
  obtain ⟨hstart, -⟩ := remembers_create h
  obtain ⟨hstart', -⟩ := remembers_create h'
  have hgroup := hstart.after events
  have halike := hgroup.alike (hstart'.after events') hsettings hlatest
  refine ⟨fun status => (halike.process status).1, halike.demands_eq, fun status hunknown => ?_⟩
  have hprocess : (g.after events).process status = (g.after events, none) :=
    process_of_unknown fun name hmem => hunknown name ((hgroup.keys name).mp hmem)
  refine ⟨hprocess, fun later => ?_⟩
  simp [demands, given?, ZoneGroup.step, hprocess]

/-- The den and the attic say what they want in one order and then in the other, the den once with
a demand that it takes back, and a roof that is no zone in between.  The demand for the cellar's
status is the same double. -/
theorem demands_of_same_latest_in_house :
    let reports (name : String) (demand : Float) : Signal (ZoneStatus Float) :=
      .healthy (.ofEpoch 0 0) ⟨{}, ⟨none, demand, true⟩, none, none⟩ (some name)
    let events : List (GroupEvent Float) :=
      [.status (reports "den" 7), .status (reports "attic" 0.2), .status (reports "den" 0.1)]
    let events' : List (GroupEvent Float) :=
      [.status (reports "den" 0.1), .status (reports "roof" 9), .status (reports "attic" 0.2)]
    ∃ (zones : List (Zone Float)) (g : ZoneGroup Float), create zones = .ok g ∧
      zones.map Zone.name = ["den", "attic", "cellar"] ∧
      ((g.after events').process (reports "cellar" 0.3)).2 =
        ((g.after events).process (reports "cellar" 0.3)).2 ∧
      (g.after events).process (reports "roof" 9) = (g.after events, none) := by
  intro reports events events'
  have hruns : Outcome.holds (do
      let zones ← ["den", "attic", "cellar"].mapM fun name => do
        let thermostat ← Thermostat.create name (20 : Float) .standard (PidSettings.ofGains 1 1 0 0)
        Zone.create thermostat {} none
      let g ← create zones
      return (zones, g))
    (fun (zones, _) => zones.map Zone.name == ["den", "attic", "cellar"]) = true := by
    decide +kernel
  obtain ⟨⟨zones, g⟩, hbuilt, htest⟩ := Outcome.exists_of_holds hruns
  obtain ⟨zones', -, hbuilt⟩ := Outcome.of_bind_eq_ok hbuilt
  obtain ⟨g', hg, hbuilt⟩ := Outcome.of_bind_eq_ok hbuilt
  cases hbuilt
  have hnames : zones.map Zone.name = ["den", "attic", "cellar"] := by simpa using htest
  have hlatest : ∀ name ∈ zones.map Zone.name,
      latest? (events'.filterMap GroupEvent.status?) name =
        latest? (events.filterMap GroupEvent.status?) name := by
    have hsource : ∀ name demand, (reports name demand).source = some name := fun _ _ => rfl
    simp [hnames, latest?, events, events', hsource]
  have hsettings : (g.after events').zones.settings = (g.after events).zones.settings := by
    simp [after, step, events, events']
  obtain ⟨hnext, -, hunknown⟩ := demands_of_same_latest hg hg events events' hsettings hlatest
  have hroof : ∀ name ∈ zones.map Zone.name, (reports "roof" 9).source ≠ some name := by
    rw [hnames]
    decide
  exact ⟨zones, g, hg, hnames, hnext _, (hunknown _ hroof).1⟩

end ZoneGroup

end HomeClimate
