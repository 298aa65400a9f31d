import HomeClimate.Proofs.House.Assembly
import HomeClimate.Proofs.House.Moves
import HomeClimate.Proofs.Zone.Zones

/-!
# Shutting a house down

The parts of a house run side by side, so anything may still be on its way when it
is shut down: readings in a line, temperatures in front of a zone, statuses, demands
in front of the driver.  A `HouseEvent` lets one part do one thing with what waits
for it, or lets something arrive that was on its way, and any order of events is a
run.  Time that passes, with all that the timers set off, is an event too.

*What is always so.*  `Orderly`: a house that is closed takes no readings, all its
zones are parked, and the last command to its unit was to be off.  Every event keeps
that, because every event but a shutdown only moves the house, and a shutdown parks
all zones.

*Devices that refuse.*  A device may answer a command with an error.  The command
was given all the same, the error is noted in `HouseRun.refused`, and all goes on as
if nothing had happened.
-/

namespace HomeClimate

variable {ν : Type}

/-- What can happen to a house. -/
inductive HouseEvent (ν : Type) where
  /-- A reading is fed in. -/
  | feed (source : String) (reading : Signal ν)
  /-- The lines let out what is in them. -/
  | lines
  /-- Temperatures that were on their way reach the queue of a zone. -/
  | samples (zone : String) (samples : List (Signal ν))
  /-- Readings outside that were on their way reach the queues of all zones. -/
  | readings (readings : List (Signal ν))
  /-- A zone takes one temperature while the clock shows a time. -/
  | takeSample (zone : String) (clock : Instant)
  /-- A zone takes one reading outside while the clock shows a time. -/
  | takeReading (zone : String) (clock : Instant)
  /-- A zone looks at the changes of its settings. -/
  | takeWakeUp (zone : String)
  /-- A status reaches the unit's control. -/
  | status (status : Signal (ZoneStatus ν))
  /-- A demand that was on its way reaches the queue of the driver. -/
  | demand (demand : Signal (UnitDemand ν))
  /-- The driver takes one demand. -/
  | drive
  /-- A user changes the settings of a zone. -/
  | setSettings (zone : String) (update : ZoneSettings ν)
  /-- A period of a zone begins, or none is left. -/
  | setPeriod (zone : String) (period : Option (PeriodSettings ν))
  /-- Time passes, and the house does all that falls due. -/
  | wait (span : Span)
  /-- The readings have an end. -/
  | closeInputs
  /-- The house is shut down. -/
  | shutDown

namespace House

variable [Scalar ν]

/-! ## What is always so -/

/-- A house of a mode in which nothing is left half closed: if it is closed it takes no readings,
its unit was told to be off and was told nothing since, and every zone is parked. -/
structure Orderly (mode : Mode) (h : House ν) : Prop where
  control : h.control.mode = mode
  keys : h.zones.keys.Nodup
  zones : ∀ e ∈ h.zones, e.2.zone.ClosesWhole
  isOpen : h.isClosed = true → h.isOpen = false
  issued : h.isClosed = true → h.issued.getLast? = some (.off (some mode))
  parked : h.isClosed = true → ∀ e ∈ h.zones, e.2.zone.IsParked

theorem Orderly.moves {mode : Mode} {h h' : House ν} (ho : h.Orderly mode) (hm : h.Moves h') :
    h'.Orderly mode where
  control := hm.mode.trans ho.control
  keys := hm.keys.symm ▸ ho.keys
  zones := Table.Related.forall_values (fun _ _ hr hz => hr.closesWhole hz) hm.zones ho.zones
  isOpen := fun hc => hm.isOpen (ho.isOpen (hm.isClosed.symm.trans hc))
  issued := fun hc => by
    have hc' := hm.isClosed.symm.trans hc
    rw [hm.issued hc']
    exact ho.issued hc'
  parked := fun hc => Table.Related.forall_values (fun _ _ hr hp => hr.isParked hp) hm.zones
    (ho.parked (hm.isClosed.symm.trans hc))

/-- To shut a house down that is closed is to do nothing. -/
theorem shutDown_of_closed {h : House ν} (hc : h.isClosed = true) : h.shutDown = h := if_pos hc

theorem isClosed_shutDown (h : House ν) : h.shutDown.isClosed = true := by
  by_cases hc : h.isClosed = true
  · rw [shutDown_of_closed hc]
    exact hc
  · rw [shutDown, if_neg hc]

/-- A shutdown parks every zone and turns the unit off. -/
theorem Orderly.shutDown {mode : Mode} {h : House ν} (ho : h.Orderly mode) :
    h.shutDown.Orderly mode := by
  by_cases hc : h.isClosed = true
  · rw [shutDown_of_closed hc]
    exact ho
  · have hparked : ∀ e ∈ h.zones.map fun e => (e.1, { e.2 with zone := e.2.zone.close }),
        e.2.zone.IsParked := by
      intro e he
      obtain ⟨e₀, he₀, rfl⟩ := List.mem_map.mp he
      exact Zone.close_isParked (ho.zones e₀ he₀)
    rw [House.shutDown, if_neg hc]
    refine ⟨ho.control, ?_, fun e he _ => hparked e he, fun _ => rfl, fun _ => ?_, fun _ => hparked⟩
    · rw [Table.keys, List.map_map]
      exact ho.keys
    · dsimp only
      rw [List.getLast?_concat, ho.control]

theorem orderly_start {config : SystemConfig ν} {options : HouseOptions ν} {now : Instant}
    {h : House ν} (hstart : start config options now = .ok h) : h.Orderly config.unit.mode := by
  obtain ⟨_, -, hstart⟩ := Outcome.of_bind_eq_ok hstart
  obtain ⟨unit, -, hstart⟩ := Outcome.of_bind_eq_ok hstart
  obtain ⟨source, -, hstart⟩ := Outcome.of_bind_eq_ok hstart
  obtain ⟨built, hbuilt, hstart⟩ := Outcome.of_bind_eq_ok hstart
  obtain ⟨ambient, -, hstart⟩ := Outcome.of_bind_eq_ok hstart
  obtain ⟨zones, hzones, hstart⟩ := Outcome.of_bind_eq_ok hstart
  obtain ⟨scheduler, -, hstart⟩ := Outcome.of_bind_eq_ok hstart
  cases hstart
  have hcreate := Outcome.of_mapError_eq_ok hzones
  have hnew : ∀ z ∈ built.map Prod.fst, z.isClosed = false := by
    intro z hz
    obtain ⟨e, he, rfl⟩ := List.mem_map.mp hz
    obtain ⟨c, -, hc⟩ := Outcome.exists_of_mem_right (Outcome.forall₂_of_mapM hbuilt) he
    obtain ⟨zone, hzone, hc⟩ := Outcome.of_bind_eq_ok hc
    obtain ⟨chain, -, hc⟩ := Outcome.of_bind_eq_ok hc
    cases hc
    exact (ZoneConfig.isNew_build hzone).isClosed
  have hopen := Zones.forall_create (P := fun _ z => z.isClosed = false) hcreate hnew
  refine ⟨rfl, ?_, fun e he hc => ?_, fun hc => (nomatch hc), fun hc => (nomatch hc),
    fun hc => (nomatch hc)⟩
  · have hsorted := Zones.sorted_create hcreate
    rw [Table.keys, List.map_map]
    exact hsorted.nodup
  · obtain ⟨e₀, he₀, rfl⟩ := List.mem_map.mp he
    have hopen₀ : (ZoneLoop.start e₀.2).zone.isClosed = false := hopen e₀ he₀
    rw [hopen₀] at hc
    cases hc

/-! ## Events -/

/-- The house after an event.  A reading that is refused changes nothing. -/
def after (h : House ν) : HouseEvent ν → House ν
  | .feed source reading =>
    match h.feed source reading with
    | .ok h => h
    | .error _ => h
  | .lines => h.runLines fun isTaken l => l.settle isTaken h.elapsed
  | .samples zone samples => { h with zones := sendSamples h.zones zone samples }
  | .readings readings => { h with zones := sendReadings h.zones readings }
  | .takeSample zone clock => { h with zones := h.zones.modify zone (·.takeSample clock) }
  | .takeReading zone clock => { h with zones := h.zones.modify zone (·.takeReading clock) }
  | .takeWakeUp zone => { h with zones := h.zones.modify zone ZoneLoop.takeWakeUp }
  | .status status => h.arbitrate status
  | .demand demand => { h with pending := h.pending ++ [demand] }
  | .drive => h.drive
  | .setSettings zone update => (h.setSettings zone update).1
  | .setPeriod zone period =>
    { h with zones := h.zones.modify zone fun l => { l with zone := (l.zone.setPeriod period).1 } }
  | .wait span => h.wait span
  | .closeInputs => h.closeInputs
  | .shutDown => h.shutDown

/-- Every event but a shutdown moves the house, and on a closed house that does too. -/
theorem moves_after {h : House ν} (hkeys : h.zones.keys.Nodup) (event : HouseEvent ν)
    (hevent : event = .shutDown → h.isClosed = true) : h.Moves (h.after event) := by
  cases event with
  | feed source reading =>
      rw [after]
      cases hf : h.feed source reading with
      | error e => exact .refl h
      | ok h' => exact moves_feed hf
  | lines =>
      rw [after]
      exact h.moves_runLines _
  | samples zone samples =>
      exact .of_zonesRest rfl rfl id rfl (zonesRest_sendSamples h.zones zone samples)
  | readings readings =>
      exact .of_zonesRest rfl rfl id rfl (zonesRest_sendReadings h.zones readings)
  | takeSample zone clock => exact h.moves_modify zone fun l => l.rests_takeSample clock
  | takeReading zone clock => exact h.moves_modify zone fun l => l.rests_takeReading clock
  | takeWakeUp zone => exact h.moves_modify zone fun l => l.rests_takeWakeUp
  | status status => exact h.moves_arbitrate status
  | demand demand => exact .of_zonesRest rfl rfl id rfl (.refl h.zones)
  | drive => exact h.moves_drive
  | setSettings zone update => exact h.moves_setSettings zone update hkeys
  | setPeriod zone period =>
      exact h.moves_modify zone fun l => (l.zone.adjusts_setPeriod period).rests
  | wait span => exact h.moves_wait span hkeys
  | closeInputs => exact h.moves_closeInputs
  | shutDown =>
      rw [after, shutDown_of_closed (hevent rfl)]
      exact .refl h

theorem Orderly.after {mode : Mode} {h : House ν} (ho : h.Orderly mode) (event : HouseEvent ν) :
    (h.after event).Orderly mode := by
  by_cases hevent : event = .shutDown
  · rw [hevent]
    exact ho.shutDown
  · exact ho.moves (moves_after ho.keys event fun he => absurd he hevent)

omit [Scalar ν] in
theorem damperCommands_eq (h : House ν) (zone : String) :
    h.damperCommands zone = ((h.zones.get? zone).map fun l => l.zone.commands).getD [] := by
  rw [damperCommands]
  cases h.zones.get? zone with
  | none => rfl
  | some l => rfl

/-- No economizer of a closed house gives a command. -/
theorem Orderly.damperCommands_eq {mode : Mode} {h h' : House ν} (ho : h.Orderly mode)
    (hc : h.isClosed = true) (hm : h.Moves h') (zone : String) :
    h'.damperCommands zone = h.damperCommands zone := by
  rw [House.damperCommands_eq, House.damperCommands_eq]
  have hget := Table.Related.get? hm.zones zone
  cases hl : h.zones.get? zone with
  | none =>
      rw [hl] at hget
      generalize h'.zones.get? zone = l' at hget ⊢
      cases hget
      rfl
  | some l =>
      have hparked := ho.parked hc _ (Table.mem_of_get? hl)
      rw [hl] at hget
      generalize h'.zones.get? zone = l' at hget ⊢
      cases hget with
      | some hrests => exact hrests.commands_eq hparked

/-! ## Runs -/

/-- The commands that were given between two states of a house, to the unit and to the devices of
the economizers. -/
def commandsSince (h h' : House ν) : List (Command ν) :=
  h'.issued.drop h.issued.length ++
    h'.zones.keys.flatMap fun zone =>
      (h'.damperCommands zone).drop (h.damperCommands zone).length

end House

/-- A house in a run, with the errors that devices answered. -/
structure HouseRun (ν : Type) where
  /-- The house. -/
  house : House ν
  /-- The commands that a device refused, the first one first. -/
  refused : List (Command ν)

/-- An event, and which commands the devices refuse meanwhile. -/
structure AnsweredEvent (ν : Type) where
  /-- What happens. -/
  event : HouseEvent ν
  /-- Whether the device that gets a command answers with an error. -/
  refuses : Command ν → Bool

namespace HouseRun

variable [Scalar ν]

/-- A house to which nothing has happened. -/
def start (house : House ν) : HouseRun ν := ⟨house, []⟩

/-- The run after an event. -/
def step (r : HouseRun ν) (e : AnsweredEvent ν) : HouseRun ν :=
  let house := r.house.after e.event
  ⟨house, r.refused ++ (r.house.commandsSince house).filter e.refuses⟩

/-- The run after events. -/
def run (r : HouseRun ν) (events : List (AnsweredEvent ν)) : HouseRun ν := events.foldl step r

/-- What is final about a state of a run: whatever state comes after it, this is so. -/
structure IsFinal (mode : Mode) (last r : HouseRun ν) : Prop where
  /-- The unit gets no command any more. -/
  issued : r.house.issued = last.house.issued
  /-- The last one that it got was to be off. -/
  lastIssued : r.house.issued.getLast? = some (.off (some mode))
  /-- No device of an economizer gets a command any more. -/
  damperCommands : ∀ zone, r.house.damperCommands zone = last.house.damperCommands zone
  /-- So there is nothing to refuse. -/
  refused : r.refused = last.refused
  /-- The house is closed. -/
  isClosed : r.house.isClosed = true
  /-- It takes no reading from a source, known or unknown. -/
  feed : ∀ source reading, r.house.feed source reading = .error .closed
  /-- To shut it down again is to do nothing. -/
  shutDown : r.house.shutDown = r.house

theorem orderly_run {mode : Mode} {r : HouseRun ν} (ho : r.house.Orderly mode)
    (events : List (AnsweredEvent ν)) : (r.run events).house.Orderly mode := by
  induction events generalizing r with
  | nil => exact ho
  | cons e rest ih => exact ih (r := r.step e) (ho.after e.event)

/-- No event leads a closed house to a command. -/
theorem refused_step {mode : Mode} {r : HouseRun ν} (ho : r.house.Orderly mode)
    (hc : r.house.isClosed = true) (e : AnsweredEvent ν) : (r.step e).refused = r.refused := by
  have hm := House.moves_after ho.keys e.event fun _ => hc
  have hnone : r.house.commandsSince (r.house.after e.event) = [] := by
    rw [House.commandsSince, hm.issued hc, List.drop_length, List.nil_append]
    refine List.flatMap_eq_nil_iff.mpr fun zone _ => ?_
    rw [ho.damperCommands_eq hc hm, List.drop_length]
  rw [step, hnone]
  exact List.append_nil r.refused

/-- A closed house stays where it is, as far as its devices can tell. -/
theorem moves_run {mode : Mode} {r : HouseRun ν} (ho : r.house.Orderly mode)
    (hc : r.house.isClosed = true) (events : List (AnsweredEvent ν)) :
    r.house.Moves (r.run events).house ∧ (r.run events).refused = r.refused := by
  induction events generalizing r with
  | nil => exact ⟨.refl r.house, rfl⟩
  | cons e rest ih =>
      have hm := House.moves_after ho.keys e.event fun _ => hc
      obtain ⟨hrest, hrefused⟩ := ih (r := r.step e) (ho.after e.event) (hm.isClosed.trans hc)
      exact ⟨hm.trans hrest, hrefused.trans (refused_step ho hc e)⟩

/-- A shutdown is final: whatever happened before and whatever happens after it, in whatever order
and whatever the devices answer. -/
theorem shutDown_isFinal {config : SystemConfig ν} {options : HouseOptions ν} {now : Instant}
    {house : House ν} (hstart : House.start config options now = .ok house)
    (before after : List (AnsweredEvent ν)) (refuses : Command ν → Bool) :
    let last := ((start house).run before).step ⟨.shutDown, refuses⟩
    IsFinal config.unit.mode last (last.run after) := by
  intro last
  have hbefore := orderly_run (r := start house) (House.orderly_start hstart) before
  have horderly : last.house.Orderly config.unit.mode := hbefore.after .shutDown
  have hclosed : last.house.isClosed = true := House.isClosed_shutDown _
  obtain ⟨hmoves, hrefused⟩ := moves_run horderly hclosed after
  have hclosed' := hmoves.isClosed.trans hclosed
  have hissued := hmoves.issued hclosed
  exact {
    issued := hissued
    lastIssued := hissued ▸ horderly.issued hclosed
    damperCommands := horderly.damperCommands_eq hclosed hmoves
    refused := hrefused
    isClosed := hclosed'
    feed := House.feed_of_closed (hmoves.isOpen (horderly.isOpen hclosed)) hclosed'
    shutDown := House.shutDown_of_closed hclosed' }

/-- A cabin whose driver has a demand in front of it when it is shut down, and whose devices refuse
everything. -/
theorem shutDown_isFinal_cabin :
    ∃ house, House.start (SystemConfig.cabin .cooling (1 : Rat) (some .cellar)) {} (.ofEpoch 0 0)
        = .ok house ∧
      let last := ((start house).run
        [⟨.feed "wall" (.healthy (.ofEpoch 0 0) 25), fun _ => true⟩,
         ⟨.demand (.healthy (.ofEpoch 0 0) ⟨3, none⟩), fun _ => true⟩]).step
          ⟨.shutDown, fun _ => true⟩
      IsFinal .cooling last (last.run
        [⟨.drive, fun _ => true⟩, ⟨.feed "wall" (.healthy (.ofEpoch 1 0) 25), fun _ => true⟩,
         ⟨.lines, fun _ => true⟩, ⟨.takeSample "den" (.ofEpoch 1 0), fun _ => true⟩,
         ⟨.shutDown, fun _ => true⟩]) := by
  have hstart : ∃ house, House.start (SystemConfig.cabin .cooling (1 : Rat) (some .cellar)) {}
      (.ofEpoch 0 0) = .ok house := ⟨_, rfl⟩
  obtain ⟨house, hhouse⟩ := hstart
  exact ⟨house, hhouse, shutDown_isFinal hhouse _ _ _⟩

end HouseRun

end HomeClimate
