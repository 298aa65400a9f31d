import HomeClimate.House.Live
import HomeClimate.Proofs.Schedule.Zones
import HomeClimate.Proofs.Zone.Closing

/-!
# What moves a house

The parts of a house hand things on: readings, temperatures, statuses, demands.
Whatever part does something, and whatever time passes, the house is only *moved*.

* Its zones are at rest (`Zone.Rests`), and no zone comes or goes.
* Its mode stays, and so does whether it is closed; if it takes no readings it takes
  none afterwards.
* Its unit gets no command but those that some demands are turned into (`Gives`), and
  none at all if the house is closed.

`Moves` says so of two states, and it composes.  Only a shutdown of a house that is
not closed is no move.
-/

namespace HomeClimate

variable {ν : Type} [Scalar ν]

/-! ## Zones with their queues -/

namespace ZoneLoop

theorem rests_repeated {step : ZoneLoop ν → ZoneLoop ν}
    (hstep : ∀ l : ZoneLoop ν, l.zone.Rests (step l).zone) (n : Nat) (l : ZoneLoop ν) :
    l.zone.Rests (repeated step n l).zone := by
  induction n generalizing l with
  | zero => exact .refl l.zone
  | succ n ih => exact (hstep l).trans (ih (step l))

theorem rests_answerSample (l : ZoneLoop ν) (now : Instant) :
    l.zone.Rests (l.answerSample now).1.zone := by
  rw [answerSample]
  cases hs : l.samples with
  | nil => exact .refl l.zone
  | cons sample rest =>
      dsimp only
      split
      · have h := l.zone.rests_attempt now sample
        cases ha : l.zone.attempt now sample with
        | mk zone answer =>
            rw [ha] at h
            cases answer with
            | ok status => exact h
            | error f => exact h
      · exact .refl l.zone

theorem rests_answerWakeUp (l : ZoneLoop ν) : l.zone.Rests l.answerWakeUp.1.zone := by
  rw [answerWakeUp]
  split
  · exact l.zone.adjusts_answerWakeUp.rests
  · exact .refl l.zone

theorem rests_takeSample (l : ZoneLoop ν) (now : Instant) :
    l.zone.Rests (l.takeSample now).zone := l.rests_answerSample now

theorem rests_takeWakeUp (l : ZoneLoop ν) : l.zone.Rests l.takeWakeUp.zone := l.rests_answerWakeUp

theorem rests_takeReading (l : ZoneLoop ν) (now : Instant) :
    l.zone.Rests (l.takeReading now).zone := by
  rw [takeReading]
  cases hr : l.readings with
  | nil => exact .refl l.zone
  | cons reading rest =>
      dsimp only
      split
      · have h := l.zone.rests_recordAmbient now reading
        cases ha : l.zone.recordAmbient now reading with
        | mk zone answer =>
            rw [ha] at h
            cases answer with
            | ok _ => exact h
            | error f => exact h
      · exact .refl l.zone

theorem rests_settle (l : ZoneLoop ν) (now : Instant) : l.zone.Rests (l.settle now).zone := by
  rw [settle]
  have hreadings := rests_repeated (rests_takeReading · now) l.readings.length l
  have hsamples := rests_repeated (rests_takeSample · now)
    (repeated (takeReading · now) l.readings.length l).samples.length
    (repeated (takeReading · now) l.readings.length l)
  exact (hreadings.trans hsamples).trans (rests_takeWakeUp _)

end ZoneLoop

namespace House

/-! ## What everything but a shutdown leaves alone -/

/-- Between two states of a set of zones with their queues every zone was at rest. -/
def ZonesRest (zones zones' : Table String (ZoneLoop ν)) : Prop :=
  Table.Related (fun l l' => l.zone.Rests l'.zone) zones zones'

/-- Between two states of a house its unit got the commands for some demands. -/
def Gives (h h' : House ν) : Prop :=
  ∃ demands : List (Signal (UnitDemand ν)),
    h'.issued = h.issued ++ demands.map (unitCommand h.control.mode)

theorem Gives.of_eq {h h' : House ν} (heq : h'.issued = h.issued) : h.Gives h' :=
  ⟨[], heq.trans (List.append_nil _).symm⟩

theorem Gives.trans {h h₁ h₂ : House ν} (hg : h.Gives h₁) (hg' : h₁.Gives h₂)
    (hmode : h₁.control.mode = h.control.mode) : h.Gives h₂ := by
  obtain ⟨demands, hdemands⟩ := hg
  obtain ⟨more, hmore⟩ := hg'
  refine ⟨demands ++ more, hmore.trans ?_⟩
  rw [hdemands, hmode, List.map_append, List.append_assoc]

/-- What everything but a shutdown leaves alone. -/
structure Moves (h h' : House ν) : Prop where
  mode : h'.control.mode = h.control.mode
  isClosed : h'.isClosed = h.isClosed
  isOpen : h.isOpen = false → h'.isOpen = false
  issued : h.isClosed = true → h'.issued = h.issued
  zones : ZonesRest h.zones h'.zones
  gives : h.Gives h'

theorem ZonesRest.refl (zones : Table String (ZoneLoop ν)) : ZonesRest zones zones :=
  List.forall₂_same.mpr fun e _ => ⟨rfl, .refl e.2.zone⟩

theorem ZonesRest.trans {zones zones₁ zones₂ : Table String (ZoneLoop ν)}
    (h : ZonesRest zones zones₁) (h' : ZonesRest zones₁ zones₂) : ZonesRest zones zones₂ :=
  Table.Related.trans (fun l l₁ l₂ (hl : l.zone.Rests l₁.zone) (hl' : l₁.zone.Rests l₂.zone) =>
    hl.trans hl') h h'

/-- What the unit has no part in moves the house if its zones are at rest. -/
theorem Moves.of_zonesRest {h h' : House ν} (hmode : h'.control.mode = h.control.mode)
    (hclosed : h'.isClosed = h.isClosed) (hopen : h.isOpen = false → h'.isOpen = false)
    (hissued : h'.issued = h.issued) (hzones : ZonesRest h.zones h'.zones) : h.Moves h' :=
  ⟨hmode, hclosed, hopen, fun _ => hissued, hzones, .of_eq hissued⟩

theorem Moves.refl (h : House ν) : h.Moves h := .of_zonesRest rfl rfl id rfl (.refl h.zones)

theorem Moves.trans {h h₁ h₂ : House ν} (hm : h.Moves h₁) (hm' : h₁.Moves h₂) : h.Moves h₂ where
  mode := hm'.mode.trans hm.mode
  isClosed := hm'.isClosed.trans hm.isClosed
  isOpen := fun ho => hm'.isOpen (hm.isOpen ho)
  issued := fun hc => (hm'.issued (hm.isClosed.trans hc)).trans (hm.issued hc)
  zones := hm.zones.trans hm'.zones
  gives := hm.gives.trans hm'.gives hm.mode

/-- The names of the zones do not change. -/
theorem Moves.keys {h h' : House ν} (hm : h.Moves h') : h'.zones.keys = h.zones.keys :=
  Table.Related.keys hm.zones

/-- What only one zone does moves the house. -/
theorem moves_modify (h : House ν) (name : String) {f : ZoneLoop ν → ZoneLoop ν}
    (hf : ∀ l : ZoneLoop ν, l.zone.Rests (f l).zone) :
    h.Moves { h with zones := h.zones.modify name f } :=
  .of_zonesRest rfl rfl id rfl (Table.Related.of_modify (fun l => .refl l.zone) hf h.zones name)

/-! ## Lines -/

theorem zonesRest_sendSamples (zones : Table String (ZoneLoop ν)) (name : String)
    (samples : List (Signal ν)) : ZonesRest zones (sendSamples zones name samples) :=
  Table.Related.of_modify (fun l => .refl l.zone) (fun l => .refl l.zone) zones name

theorem zonesRest_sendReadings (zones : Table String (ZoneLoop ν)) (readings : List (Signal ν)) :
    ZonesRest zones (sendReadings zones readings) :=
  Table.Related.of_map fun e _ => .refl e.2.zone

theorem zonesRest_sendAll (zones : Table String (ZoneLoop ν))
    (given : List (SensorLine ν × List (Signal ν))) :
    ZonesRest zones (given.foldl (fun zones e => sendSamples zones e.1.name e.2) zones) := by
  induction given generalizing zones with
  | nil => exact .refl zones
  | cons e rest ih => exact (zonesRest_sendSamples zones e.1.name e.2).trans (ih _)

theorem moves_runLines (h : House ν)
    (run : Bool → SensorLine ν → SensorLine ν × List (Signal ν)) : h.Moves (h.runLines run) :=
  .of_zonesRest rfl rfl id rfl ((zonesRest_sendAll h.zones _).trans (zonesRest_sendReadings _ _))

/-! ## Zones that are put back -/

/-- A zone was at rest since some zones had one of its name. -/
def RestsSince (zones : Zones ν) (name : String) (z' : Zone ν) : Prop :=
  ∃ z, zones.get? name = some z ∧ z.Rests z'

omit [Scalar ν] in
theorem get?_zoneTable (h : House ν) (name : String) :
    h.zoneTable.get? name = (h.zones.get? name).map ZoneLoop.zone :=
  Table.get?_map h.zones ZoneLoop.zone name

omit [Scalar ν] in
theorem keys_zoneTable (h : House ν) : h.zoneTable.keys = h.zones.keys := by
  rw [Table.keys, zoneTable, List.map_map]
  rfl

theorem restsSince_zoneTable (h : House ν) (hkeys : h.zones.keys.Nodup) :
    ∀ e ∈ h.zoneTable, RestsSince h.zoneTable e.1 e.2 := by
  intro e he
  rw [← keys_zoneTable] at hkeys
  exact ⟨e.2, Table.get?_of_mem hkeys he, .refl e.2⟩

/-- Zones that are put back move the house if each was at rest. -/
theorem moves_setZones (h : House ν) (hkeys : h.zones.keys.Nodup) {zones : Zones ν}
    (hzones : ∀ e ∈ zones, RestsSince h.zoneTable e.1 e.2) : h.Moves (h.setZones zones) := by
  refine .of_zonesRest rfl rfl id rfl (Table.Related.of_map fun e he => ?_)
  dsimp only
  cases hz : zones.get? e.1 with
  | none => exact .refl e.2.zone
  | some z =>
      obtain ⟨z₀, hz₀, hrests⟩ := hzones _ (Table.mem_of_get? hz)
      rw [get?_zoneTable, Table.get?_of_mem hkeys he] at hz₀
      cases hz₀
      exact hrests

/-! ## What is done from outside -/

theorem moves_feed {h h' : House ν} {source : String} {reading : Signal ν}
    (hfeed : h.feed source reading = .ok h') : h.Moves h' := by
  unfold feed at hfeed
  dsimp only at hfeed
  split at hfeed
  · split at hfeed
    · cases hfeed
    · cases hfeed
      exact .of_zonesRest rfl rfl id rfl (.refl h.zones)
  · split at hfeed <;> cases hfeed

omit [Scalar ν] in
/-- A house that is closed takes no reading, from a source that it knows or from another. -/
theorem feed_of_closed {h : House ν} (ho : h.isOpen = false) (hc : h.isClosed = true)
    (source : String) (reading : Signal ν) : h.feed source reading = .error .closed := by
  have hsources : h.sources = [] := by
    rw [sources, ho]
    rfl
  rw [feed, hsources, hc]
  rfl

/-! ## Zones and the unit -/

theorem process_mode (u : UnitControl ν) (zones : Table String (ZoneSettings ν))
    (status : Signal (ZoneStatus ν)) : (u.process zones status).1.mode = u.mode := by
  rw [UnitControl.process]
  cases u.arbiter.process zones status with
  | mk arbiter demand =>
      cases demand with
      | none => rfl
      | some demand => rfl

theorem moves_arbitrate (h : House ν) (status : Signal (ZoneStatus ν)) :
    h.Moves (h.arbitrate status) :=
  .of_zonesRest (process_mode h.control _ status) rfl id rfl (.refl h.zones)

theorem moves_arbitrateAll (h : House ν) (statuses : List (Signal (ZoneStatus ν))) :
    h.Moves (statuses.foldl arbitrate h) := by
  induction statuses generalizing h with
  | nil => exact .refl h
  | cons status rest ih => exact (h.moves_arbitrate status).trans (ih _)

theorem moves_runZones (h : House ν) : h.Moves h.runZones := by
  have hsettled : h.Moves { h with zones :=
      (h.zones.map fun e => (e.1, (e.2.settle h.now).takeStatuses)).map fun e => (e.1, e.2.1) } := by
    refine .of_zonesRest rfl rfl id rfl ?_
    dsimp only
    rw [List.map_map]
    exact Table.Related.of_map fun e _ => e.2.rests_settle h.now
  exact hsettled.trans (moves_arbitrateAll _ _)

/-- The driver gives no command once the house is closed. -/
theorem moves_drive (h : House ν) : h.Moves h.drive := by
  rw [drive]
  cases hp : h.pending with
  | nil => exact .refl h
  | cons demand rest =>
      dsimp only
      split
      · exact .of_zonesRest rfl rfl id rfl (.refl h.zones)
      · rename_i hopen
        exact ⟨rfl, rfl, id, fun hc => absurd hc hopen, .refl h.zones, [demand], rfl⟩

theorem moves_driveTimes (n : Nat) (h : House ν) : h.Moves (driveTimes n h) := by
  induction n generalizing h with
  | zero => exact .refl h
  | succ n ih => exact h.moves_drive.trans (ih h.drive)

theorem moves_settle (h : House ν) : h.Moves h.settle :=
  ((h.moves_runLines _).trans (moves_runZones _)).trans (moves_driveTimes _ _)

/-! ## Changed settings -/

theorem moves_setSettings (h : House ν) (name : String) (update : ZoneSettings ν)
    (hkeys : h.zones.keys.Nodup) : h.Moves (h.setSettings name update).1 := by
  rw [setSettings]
  cases hz : h.zone name with
  | error e => exact .refl h
  | ok z =>
      have hfound : h.zoneTable.get? name = some z := by
        rw [get?_zoneTable]
        rw [zone] at hz
        cases hl : h.zones.get? name with
        | none =>
            rw [hl] at hz
            cases hz
        | some l =>
            rw [hl] at hz
            cases hz
            rfl
      have hset : RestsSince h.zoneTable name (z.setSettings update).1 :=
        ⟨z, hfound, (z.adjusts_setSettings update).rests⟩
      refine moves_setZones h hkeys ?_
      exact Table.forall_modify (fun e he _ => h.restsSince_zoneTable hkeys e he) fun _ _ => hset

/-! ## The scheduler -/

theorem adjustable_restsSince (zones : Zones ν) (name : String) :
    Zone.Adjustable (RestsSince zones name) := by
  rintro z₁ z₂ hadjusts ⟨z, hz, hrests⟩
  exact ⟨z, hz, hrests.trans hadjusts.rests⟩

theorem moves_fireScheduler (h : House ν) (hkeys : h.zones.keys.Nodup) :
    h.Moves h.fireScheduler := by
  have hzones := SchedulerLoop.forall_act (adjustable_restsSince h.zoneTable) h.scheduling
    (h.restsSince_zoneTable hkeys) h.elapsed h.now
  have hset := moves_setZones h hkeys hzones
  exact ⟨hset.mode, hset.isClosed, hset.isOpen, hset.issued, hset.zones, hset.gives⟩

/-! ## Time -/

theorem moves_idle (h : House ν) (hkeys : h.zones.keys.Nodup) : h.Moves h.idle := by
  rw [idle]
  split
  · exact .refl h
  · have hlines : h.Moves h.settle.fireLines := h.moves_settle.trans (moves_runLines _ _)
    have hfired := hlines.trans (moves_fireScheduler _ (hlines.keys.symm ▸ hkeys))
    exact hfired.trans (moves_settle _)

theorem moves_fireUntil (until_ : Span) (times : Nat) (h : House ν) (hkeys : h.zones.keys.Nodup) :
    h.Moves (fireUntil until_ times h) := by
  induction times generalizing h with
  | zero => exact .refl h
  | succ times ih =>
      rw [fireUntil]
      split
      · exact .refl h
      · split
        · have hdue : h.Moves { h with elapsed := h.nextDue } :=
            .of_zonesRest rfl rfl id rfl (.refl h.zones)
          have hidle := hdue.trans (moves_idle _ hkeys)
          exact hidle.trans (ih _ (hidle.keys.symm ▸ hkeys))
        · exact .refl h

theorem moves_wait (h : House ν) (span : Span) (hkeys : h.zones.keys.Nodup) :
    h.Moves (h.wait span) := by
  have hidle := h.moves_idle hkeys
  have hfire := hidle.trans (moves_fireUntil (h.elapsed + span) (h.timesUntil (h.elapsed + span)) _
    (hidle.keys.symm ▸ hkeys))
  exact hfire.trans (.of_zonesRest rfl rfl id rfl (.refl _))

theorem moves_closeInputs (h : House ν) : h.Moves h.closeInputs := by
  have hsettle : h.Moves (if h.isClosed then h else h.settle) := by
    split
    · exact .refl h
    · exact h.moves_settle
  refine hsettle.trans (.of_zonesRest rfl rfl (fun _ => rfl) rfl ?_)
  exact Table.Related.of_map fun e _ => .refl e.2.zone

end House

end HomeClimate
