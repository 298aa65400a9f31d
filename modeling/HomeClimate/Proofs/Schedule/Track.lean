import HomeClimate.Proofs.Schedule.Zones
import HomeClimate.Proofs.Zone.Consistency

/-!
# The track of a zone

The scheduler keeps its records by the names of zones, and applies the schedule of a
zone to the records and the zone of that name.  So what it does to one zone can be told
from the *track* of the zone: the period that was applied last, the period that was
recorded while the zone was on hold, and the zone.

`Track.Applied` lists what a schedule can do to the track of a consistent zone.  There
are six cases, each with the events that it makes.  `Track.Passes` is what a round of
the scheduler over all zones, an update or a tick, does to the track of one: a zone with
a schedule has it applied once, and nothing else is done to it.

A run is any sequence of rounds and of calls to the zones, at any times of the clock.
-/

namespace HomeClimate

variable {ν : Type} [Scalar ν]

/-- The period in effect is one of the schedule. -/
theorem mem_of_bestMatch? {α : Type} {schedule : ScheduleOf α} {now : Instant} {e : Period × α}
    (h : bestMatch? schedule now = some e) : e ∈ schedule :=
  List.mem_reverse.mp (List.mem_of_find?_eq_some h)

/-- A zone with what the scheduler knows of it. -/
structure Track (ν : Type) where
  /-- The period that was applied last. -/
  current : Option Period
  /-- The period that the zone remembers on hold. -/
  held : Option Period
  /-- The zone. -/
  zone : Zone ν

namespace Track

/-- What a schedule does to a track, by what was found in the schedule, and the events. -/
inductive Applied (t : Track ν) :
    Option (Period × ZoneSettings ν) → Track ν → List (Option (Period × ZoneSettings ν)) → Prop
  where
  | there {found : Option (Period × ZoneSettings ν)} :
    t.current = found.map Prod.fst →
    Applied t found t []
  | cleared :
    t.current ≠ none →
    Applied t none ⟨none, none, { t.zone with period := none }⟩ [none]
  | remembered {p : Period} {wanted : ZoneSettings ν} :
    t.current ≠ some p →
    t.zone.settings.isOnHold = true →
    t.held = some p →
    Applied t (some (p, wanted)) t []
  | recorded {p : Period} {wanted : ZoneSettings ν} :
    t.current ≠ some p →
    t.zone.settings.isOnHold = true →
    t.held ≠ some p →
    Applied t (some (p, wanted))
      ⟨t.current, some p, { t.zone with period := some ⟨p.name, wanted⟩ }⟩ []
  | entered {p : Period} {wanted : ZoneSettings ν} {z : Zone ν} :
    t.current ≠ some p →
    t.zone.settings.isOnHold = false →
    t.zone.Accepts wanted →
    z.settings = t.zone.settings.merge wanted →
    z.period = some ⟨p.name, wanted⟩ →
    z.IsConsistent →
    z.name = t.zone.name →
    z.thermostat.range = t.zone.thermostat.range →
    Applied t (some (p, wanted)) ⟨some p, none, z⟩ [some (p, wanted)]
  | rejected {p : Period} {wanted : ZoneSettings ν} :
    t.current ≠ some p →
    t.zone.settings.isOnHold = false →
    ¬ t.zone.Accepts wanted →
    Applied t (some (p, wanted))
      ⟨none, none, { t.zone with period := some ⟨p.name, wanted⟩ }⟩ [none]

/-- A zone keeps its name and its range, and stays consistent. -/
theorem Applied.frame {t t' : Track ν} {found : Option (Period × ZoneSettings ν)}
    {events : List (Option (Period × ZoneSettings ν))} (h : t.Applied found t' events)
    (hz : t.zone.IsConsistent) :
    t'.zone.IsConsistent ∧ t'.zone.name = t.zone.name ∧
      t'.zone.thermostat.range = t.zone.thermostat.range := by
  cases h with
  | there => exact ⟨hz, rfl, rfl⟩
  | cleared => exact ⟨⟨hz.setpoint, hz.range, hz.economizer⟩, rfl, rfl⟩
  | remembered => exact ⟨hz, rfl, rfl⟩
  | recorded => exact ⟨⟨hz.setpoint, hz.range, hz.economizer⟩, rfl, rfl⟩
  | entered _ _ _ _ _ hnext hname hrange => exact ⟨hnext, hname, hrange⟩
  | rejected => exact ⟨⟨hz.setpoint, hz.range, hz.economizer⟩, rfl, rfl⟩

/-- What a round does to the track of a zone that may have a schedule, and the events. -/
inductive Passes (now : Instant) : Option (Schedule ν) → Option (Track ν) → Option (Track ν) →
    List (Option (Period × ZoneSettings ν)) → Prop
  where
  | unknown {schedule : Option (Schedule ν)} :
    Passes now schedule none none []
  | unscheduled {t : Option (Track ν)} :
    Passes now none t t []
  | applied {schedule : Schedule ν} {t t' : Track ν}
      {events : List (Option (Period × ZoneSettings ν))} :
    t.Applied (bestMatch? schedule now) t' events →
    Passes now (some schedule) (some t) (some t') events

theorem Passes.of_none {now : Instant} {t t' : Option (Track ν)}
    {events : List (Option (Period × ZoneSettings ν))} (h : Passes now none t t' events) :
    t' = t ∧ events = [] := by
  cases h with
  | unknown => exact ⟨rfl, rfl⟩
  | unscheduled => exact ⟨rfl, rfl⟩

end Track

/-- What some events say of a zone. -/
def eventsOf (name : String) (events : List (ScheduleEvent ν)) :
    List (Option (Period × ZoneSettings ν)) :=
  (events.filter fun e => e.zone == name).map ScheduleEvent.period

omit [Scalar ν] in
@[simp] theorem eventsOf_append (name : String) (events events' : List (ScheduleEvent ν)) :
    eventsOf name (events ++ events') = eventsOf name events ++ eventsOf name events' := by
  simp [eventsOf]

omit [Scalar ν] in
theorem mem_eventsOf {name : String} {events : List (ScheduleEvent ν)}
    {period : Option (Period × ZoneSettings ν)} :
    period ∈ eventsOf name events ↔ ⟨name, period⟩ ∈ events := by
  simp only [eventsOf, List.mem_map, List.mem_filter, beq_iff_eq]
  constructor
  · rintro ⟨⟨zone, period⟩, ⟨hmem, rfl⟩, rfl⟩
    exact hmem
  · intro hmem
    exact ⟨⟨name, period⟩, ⟨hmem, rfl⟩, rfl⟩

namespace Scheduler

/-- The track of a zone. -/
def track (s : Scheduler ν) (name : String) (z : Zone ν) : Track ν :=
  ⟨s.current.get? name, s.held.get? name, z⟩

/-! ## One zone -/

theorem applied_hold (s : Scheduler ν) {z : Zone ν} {p : Period} (wanted : ZoneSettings ν)
    (hcurrent : s.current.get? z.name ≠ some p) (hold : z.settings.isOnHold = true) :
    (s.track z.name z).Applied (some (p, wanted))
      ((s.hold z.name z p wanted).1.track z.name (s.hold z.name z p wanted).2) [] := by
  by_cases hheld : s.held.get? z.name = some p
  · have happlied : (s.track z.name z).Applied (some (p, wanted)) (s.track z.name z) [] :=
      .remembered hcurrent hold hheld
    simpa [Scheduler.hold, hheld] using happlied
  · have happlied : (s.track z.name z).Applied (some (p, wanted))
        ⟨s.current.get? z.name, some p, { z with period := some ⟨p.name, wanted⟩ }⟩ [] :=
      .recorded hcurrent hold hheld
    simpa [Scheduler.hold, hheld, Zone.setPeriod, hold, track, Table.get?_insert] using happlied

theorem applied_enter (s : Scheduler ν) {z : Zone ν} (hz : z.IsConsistent) {p : Period}
    (wanted : ZoneSettings ν) (hcurrent : s.current.get? z.name ≠ some p)
    (hold : z.settings.isOnHold = false) :
    (s.track z.name z).Applied (some (p, wanted))
      ((s.enter z.name z p wanted).1.track z.name (s.enter z.name z p wanted).2.1)
      [(s.enter z.name z p wanted).2.2.period] := by
  rcases Zone.setPeriod_cases hz ⟨p.name, wanted⟩ with
    ⟨hon, -⟩ | ⟨-, hu, e, hset⟩ | ⟨-, hu, hok, hmerged, hperiod, hnext⟩
  · rw [hold] at hon
    cases hon
  · simpa [enter, hset, track, Table.get?_erase] using
      Track.Applied.rejected (t := s.track z.name z) hcurrent hold hu
  · have hadjusts := z.adjusts_setPeriod (some ⟨p.name, wanted⟩)
    cases hset : z.setPeriod (some ⟨p.name, wanted⟩) with
    | mk z' answer =>
        rw [hset] at hok hmerged hperiod hnext hadjusts
        simp only at hok
        subst hok
        simpa [enter, hset, track, Table.get?_erase, Table.get?_insert] using
          Track.Applied.entered (t := s.track z.name z) hcurrent hold hu hmerged hperiod hnext
            hadjusts.name hadjusts.range

/-- A schedule that is applied to a consistent zone does one of the six things to its track. -/
theorem applied_apply (s : Scheduler ν) {z : Zone ν} (hz : z.IsConsistent)
    (schedule : Schedule ν) (now : Instant) :
    (s.track z.name z).Applied (bestMatch? schedule now)
      ((s.apply z schedule now).1.track z.name (s.apply z schedule now).2.1)
      ((s.apply z schedule now).2.2.toList.map ScheduleEvent.period) := by
  by_cases hthere : s.current.get? z.name = (bestMatch? schedule now).map Prod.fst
  · simpa [apply, hthere] using Track.Applied.there (t := s.track z.name z) hthere
  · cases hfound : bestMatch? schedule now with
    | none =>
        have hcurrent : s.current.get? z.name ≠ none := by simpa [hfound] using hthere
        simpa [apply, hfound, hcurrent, track, clear, Table.get?_erase, Zone.setPeriod] using
          Track.Applied.cleared (t := s.track z.name z) hcurrent
    | some found =>
        obtain ⟨p, wanted⟩ := found
        have hcurrent : s.current.get? z.name ≠ some p := by simpa [hfound] using hthere
        cases hold : z.settings.isOnHold with
        | true => simpa [apply, hfound, hcurrent, hold] using s.applied_hold wanted hcurrent hold
        | false =>
            simpa [apply, hfound, hcurrent, hold] using s.applied_enter hz wanted hcurrent hold

theorem hold_others (s : Scheduler ν) (z : Zone ν) (p : Period) (wanted : ZoneSettings ν)
    {name : String} (hne : z.name ≠ name) (other : Zone ν) :
    (s.hold z.name z p wanted).1.track name other = s.track name other := by
  rw [hold]
  split
  · rfl
  · cases hset : z.setPeriod (some ⟨p.name, wanted⟩) with
    | mk z' answer => cases answer <;> simp [track, Table.get?_insert, hne]

theorem enter_others (s : Scheduler ν) (z : Zone ν) (p : Period) (wanted : ZoneSettings ν)
    {name : String} (hne : z.name ≠ name) (other : Zone ν) :
    (s.enter z.name z p wanted).1.track name other = s.track name other := by
  cases hset : z.setPeriod (some ⟨p.name, wanted⟩) with
  | mk z' answer =>
      cases answer <;> simp [enter, hset, track, Table.get?_insert, Table.get?_erase, hne]

/-- A schedule that is applied to a zone is nothing to the others. -/
theorem apply_others (s : Scheduler ν) (z : Zone ν) (schedule : Schedule ν) (now : Instant)
    {name : String} (hne : z.name ≠ name) (other : Zone ν) :
    (s.apply z schedule now).1.track name other = s.track name other := by
  simp only [apply]
  split
  · rfl
  · cases bestMatch? schedule now with
    | none => simp [clear, track, Table.get?_erase, hne]
    | some found =>
        simp only
        split
        · exact s.hold_others z found.1 found.2 hne other
        · exact s.enter_others z found.1 found.2 hne other

theorem zone_of_apply {s : Scheduler ν} {z : Zone ν} {schedule : Schedule ν} {now : Instant}
    {e : ScheduleEvent ν} (h : (s.apply z schedule now).2.2 = some e) : e.zone = z.name := by
  simp only [apply] at h
  split at h
  · cases h
  · cases hfound : bestMatch? schedule now with
    | none =>
        simp only [hfound, Option.some.injEq] at h
        rw [← h]
    | some found =>
        simp only [hfound] at h
        split at h
        · cases h
        · simp only [Option.some.injEq, enter] at h
          rw [← h]
          cases hset : z.setPeriod (some ⟨found.1.name, found.2⟩) with
          | mk z' answer => cases answer <;> rfl

theorem eventsOf_apply (s : Scheduler ν) (z : Zone ν) (schedule : Schedule ν) (now : Instant)
    (name : String) :
    eventsOf name (s.apply z schedule now).2.2.toList =
      if z.name = name then (s.apply z schedule now).2.2.toList.map ScheduleEvent.period
      else [] := by
  cases he : (s.apply z schedule now).2.2 with
  | none => simp [eventsOf]
  | some e =>
      have hzone := zone_of_apply he
      by_cases hname : z.name = name <;> simp [eventsOf, hzone, hname]

/-! ## All zones -/

end Scheduler

/-- Every zone is consistent and stands under its name. -/
def Zones.IsSound (zones : Zones ν) : Prop := ∀ e ∈ zones, e.2.IsConsistent ∧ e.2.name = e.1

theorem Zones.IsSound.of_get? {zones : Zones ν} (h : zones.IsSound) {name : String} {z : Zone ν}
    (hz : zones.get? name = some z) : z.IsConsistent ∧ z.name = name :=
  h _ (Table.mem_of_get? hz)

theorem Zones.IsSound.modify {zones : Zones ν} (h : zones.IsSound) {name : String}
    {f : Zone ν → Zone ν}
    (hf : ∀ z, (name, z) ∈ zones → (f z).IsConsistent ∧ (f z).name = name) :
    Zones.IsSound (Table.modify zones name f) := by
  have hall := Table.forall_modify (P := fun name (z : Zone ν) => z.IsConsistent ∧ z.name = name)
    (fun e he _ => h e he) hf
  exact hall

/-- The track of the zone of a name, if there is one. -/
def Scheduler.track? (s : Scheduler ν) (zones : Zones ν) (name : String) : Option (Track ν) :=
  (zones.get? name).map (s.track name)

namespace Scheduler

omit [Scalar ν] in
theorem track?_eq_some_iff {s : Scheduler ν} {zones : Zones ν} {name : String} {t : Track ν} :
    s.track? zones name = some t ↔ ∃ z, zones.get? name = some z ∧ s.track name z = t := by
  simp [track?]

theorem isSound_applyNamed (s : Scheduler ν) {zones : Zones ν} (h : zones.IsSound) (name : String)
    (schedule : Schedule ν) (now : Instant) :
    (s.applyNamed zones name schedule now).2.1.IsSound := by
  rw [applyNamed]
  cases hz : zones.get? name with
  | none => exact h
  | some z =>
      obtain ⟨hconsistent, hname⟩ := h.of_get? hz
      obtain ⟨hnext, hkept, -⟩ := (s.applied_apply hconsistent schedule now).frame hconsistent
      exact h.modify fun _ _ => ⟨hnext, hkept.trans hname⟩

/-- A schedule that is applied under a name is passed to the track of that name only. -/
theorem passes_applyNamed (s : Scheduler ν) {zones : Zones ν} (h : zones.IsSound) (name : String)
    (schedule : Schedule ν) (now : Instant) (other : String) :
    Track.Passes now (if name = other then some schedule else none) (s.track? zones other)
      ((s.applyNamed zones name schedule now).1.track?
        (s.applyNamed zones name schedule now).2.1 other)
      (eventsOf other (s.applyNamed zones name schedule now).2.2) := by
  rw [applyNamed]
  cases hz : zones.get? name with
  | none =>
      by_cases hname : name = other
      · subst hname
        simpa [track?, hz, eventsOf] using Track.Passes.unknown
      · simpa [hname, eventsOf] using Track.Passes.unscheduled
  | some z =>
      obtain ⟨hconsistent, rfl⟩ := h.of_get? hz
      simp only at hz ⊢
      rw [eventsOf_apply]
      by_cases hname : z.name = other
      · subst hname
        simpa [track?, hz, Table.get?_modify] using
          Track.Passes.applied (s.applied_apply hconsistent schedule now)
      · have htrack : ((s.apply z schedule now).1.track? (zones.modify z.name fun _ =>
            (s.apply z schedule now).2.1) other) = s.track? zones other := by
          simp only [track?, Table.get?_modify, hname, beq_iff_eq, if_false]
          cases zones.get? other with
          | none => rfl
          | some z' => simp [s.apply_others z schedule now hname z']
        simpa [htrack, hname] using Track.Passes.unscheduled

/-- All schedules applied are each passed to the track of its name. -/
theorem passes_applyAll (s : Scheduler ν) {zones : Zones ν} (h : zones.IsSound) (now : Instant)
    {schedules : Table String (Schedule ν)} (hkeys : schedules.keys.Nodup) (name : String) :
    Track.Passes now (schedules.get? name) (s.track? zones name)
      ((s.applyAll zones now schedules).1.track? (s.applyAll zones now schedules).2.1 name)
      (eventsOf name (s.applyAll zones now schedules).2.2) ∧
      (s.applyAll zones now schedules).2.1.IsSound := by
  induction schedules generalizing s zones with
  | nil => exact ⟨by simpa [applyAll, Table.get?, eventsOf] using .unscheduled, h⟩
  | cons entry rest ih =>
      obtain ⟨first, schedule⟩ := entry
      obtain ⟨hnew, hrest⟩ := List.nodup_cons.mp hkeys
      have hhead := s.passes_applyNamed h first schedule now name
      obtain ⟨htail, hsound⟩ := ih (s.applyNamed zones first schedule now).1
        (s.isSound_applyNamed h first schedule now) hrest
      refine ⟨?_, hsound⟩
      simp only [applyAll, eventsOf_append, Table.get?_cons]
      by_cases hname : first = name
      · subst hname
        -- The rest has no schedule for this name any more.
        rw [Table.get?_eq_none hnew] at htail
        obtain ⟨htrack, hevents⟩ := htail.of_none
        simpa [htrack, hevents] using hhead
      · simp only [hname, if_false] at hhead
        obtain ⟨htrack, hevents⟩ := hhead.of_none
        rw [htrack] at htail
        simpa [hevents, hname] using htail

/-! ## Rounds -/

/-- The scheduler with other schedules. -/
def withSchedules (s : Scheduler ν) (schedules : Table String (Schedule ν)) : Scheduler ν :=
  { s with schedules }

theorem hold_withSchedules (s : Scheduler ν) (name : String) (z : Zone ν) (p : Period)
    (wanted : ZoneSettings ν) (schedules : Table String (Schedule ν)) :
    (s.withSchedules schedules).hold name z p wanted =
      ((s.hold name z p wanted).1.withSchedules schedules, (s.hold name z p wanted).2) := by
  by_cases hheld : s.held.get? name = some p
  · simp [hold, withSchedules, hheld]
  · cases hset : z.setPeriod (some ⟨p.name, wanted⟩) with
    | mk z' answer => cases answer <;> simp [hold, withSchedules, hheld, hset]

theorem enter_withSchedules (s : Scheduler ν) (name : String) (z : Zone ν) (p : Period)
    (wanted : ZoneSettings ν) (schedules : Table String (Schedule ν)) :
    (s.withSchedules schedules).enter name z p wanted =
      ((s.enter name z p wanted).1.withSchedules schedules, (s.enter name z p wanted).2) := by
  cases hset : z.setPeriod (some ⟨p.name, wanted⟩) with
  | mk z' answer => cases answer <;> simp [enter, hset, withSchedules]

/-- To apply a schedule does not take the others. -/
theorem apply_withSchedules (s : Scheduler ν) (z : Zone ν) (schedule : Schedule ν) (now : Instant)
    (schedules : Table String (Schedule ν)) :
    (s.withSchedules schedules).apply z schedule now =
      ((s.apply z schedule now).1.withSchedules schedules, (s.apply z schedule now).2) := by
  have hcurrent : (s.withSchedules schedules).current = s.current := rfl
  simp only [apply, hcurrent]
  split
  · rfl
  · cases bestMatch? schedule now with
    | none => rfl
    | some found =>
        simp only [hold_withSchedules, enter_withSchedules]
        split <;> rfl

theorem applyNamed_withSchedules (s : Scheduler ν) (zones : Zones ν) (name : String)
    (schedule : Schedule ν) (now : Instant) (schedules : Table String (Schedule ν)) :
    (s.withSchedules schedules).applyNamed zones name schedule now =
      ((s.applyNamed zones name schedule now).1.withSchedules schedules,
        (s.applyNamed zones name schedule now).2) := by
  simp only [applyNamed, apply_withSchedules]
  cases zones.get? name <;> rfl

theorem schedules_applyNamed (s : Scheduler ν) (zones : Zones ν) (name : String)
    (schedule : Schedule ν) (now : Instant) :
    (s.applyNamed zones name schedule now).1.schedules = s.schedules := by
  have h := s.applyNamed_withSchedules zones name schedule now s.schedules
  exact congrArg (fun r => r.1.schedules) h

theorem applyAll_withSchedules (s : Scheduler ν) (zones : Zones ν) (now : Instant)
    (entries schedules : Table String (Schedule ν)) :
    (s.withSchedules schedules).applyAll zones now entries =
      ((s.applyAll zones now entries).1.withSchedules schedules,
        (s.applyAll zones now entries).2) := by
  induction entries generalizing s zones with
  | nil => rfl
  | cons entry rest ih => simp only [applyAll, applyNamed_withSchedules, ih]

theorem schedules_applyAll (s : Scheduler ν) (zones : Zones ν) (now : Instant)
    (entries : Table String (Schedule ν)) :
    (s.applyAll zones now entries).1.schedules = s.schedules := by
  have h := s.applyAll_withSchedules zones now entries s.schedules
  exact congrArg (fun r => r.1.schedules) h

/-- An update applies fresh schedules like a tick those at hand, and keeps those of known zones. -/
theorem update_eq_applyAll (s : Scheduler ν) (zones : Zones ν) (now : Instant)
    (fresh : Table String (Schedule ν)) :
    s.update zones now fresh =
      ((s.applyAll zones now fresh).1.withSchedules
          (s.schedules.insertAll (fresh.filter fun e => zones.has e.1)),
        (s.applyAll zones now fresh).2) := by
  induction fresh generalizing s zones with
  | nil => rfl
  | cons entry rest ih =>
      obtain ⟨name, schedule⟩ := entry
      have hkeys := s.keys_applyNamed zones name schedule now
      have hhas : ∀ other, Table.has (s.applyNamed zones name schedule now).2.1 other =
          zones.has other := by
        intro other
        rw [Bool.eq_iff_iff, Table.has_iff, Table.has_iff, hkeys]
      have hschedules := s.schedules_applyNamed zones name schedule now
      simp only [update, applyAll, ih, hhas]
      cases hknown : zones.has name with
      | false =>
          simp [hknown, hschedules]
      | true =>
          have hwith : ∀ (s' : Scheduler ν), { s' with schedules := s'.schedules.insert name schedule }
              = s'.withSchedules (s'.schedules.insert name schedule) := fun _ => rfl
          simp only [if_true, hwith, applyAll_withSchedules]
          simp [hknown, hschedules, withSchedules, Table.insertAll]

end Scheduler

/-- A round of the scheduler over all zones. -/
inductive ScheduleRound (ν : Type) where
  /-- Fresh schedules arrive, while the clock shows a time. -/
  | update (now : Instant) (fresh : List (String × Schedule ν))
  /-- The scheduler looks at the clock. -/
  | tick (now : Instant)

/-- What happens to a scheduler and its zones. -/
inductive ScheduleAct (ν : Type) where
  /-- A round of the scheduler. -/
  | round (r : ScheduleRound ν)
  /-- Something is done to a zone. -/
  | call (zone : String) (c : ZoneCall ν)

namespace ScheduleRound

/-- What the clock shows. -/
def now : ScheduleRound ν → Instant
  | .update now _ => now
  | .tick now => now

/-- The schedule that a round applies to a zone. -/
def schedule? (s : Scheduler ν) (name : String) : ScheduleRound ν → Option (Schedule ν)
  | .update _ fresh => (Table.ofList fresh).get? name
  | .tick _ => s.schedules.get? name

end ScheduleRound

namespace ScheduledZones

/-- Scheduler and zones after a round, and the events. -/
def round (s : ScheduledZones ν) : ScheduleRound ν → ScheduledZones ν × List (ScheduleEvent ν)
  | .update now fresh => s.update now (Table.ofList fresh)
  | .tick now => s.tick now

/-- Scheduler and zones after an act. -/
def step (s : ScheduledZones ν) : ScheduleAct ν → ScheduledZones ν
  | .round r => (s.round r).1
  | .call zone c => { s with zones := s.zones.modify zone fun z => z.call c }

/-- Scheduler and zones after some acts. -/
def after (s : ScheduledZones ν) (acts : List (ScheduleAct ν)) : ScheduledZones ν :=
  acts.foldl step s

/-- The track of the zone of a name, if there is one. -/
def track? (s : ScheduledZones ν) (name : String) : Option (Track ν) :=
  s.scheduler.track? s.zones name

/-- The zones are consistent, and no zone has two schedules. -/
structure IsSound (s : ScheduledZones ν) : Prop where
  zones : s.zones.IsSound
  schedules : Table.Sorted s.scheduler.schedules

theorem schedules_update (s : ScheduledZones ν) (now : Instant)
    (fresh : Table String (Schedule ν)) :
    (s.update now fresh).1.scheduler.schedules =
      s.scheduler.schedules.insertAll (fresh.filter fun e => s.zones.has e.1) := by
  simp [update, Scheduler.update_eq_applyAll, Scheduler.withSchedules]

theorem schedules_tick (s : ScheduledZones ν) (now : Instant) :
    (s.tick now).1.scheduler.schedules = s.scheduler.schedules := by
  simp [tick, Scheduler.tick, Scheduler.schedules_applyAll]

/-- A round passes to each track the schedule that it has for the zone, and keeps everything
sound. -/
theorem IsSound.passes_round {s : ScheduledZones ν} (h : s.IsSound) (r : ScheduleRound ν)
    (name : String) :
    Track.Passes r.now (r.schedule? s.scheduler name) (s.track? name) ((s.round r).1.track? name)
      (eventsOf name (s.round r).2) ∧ (s.round r).1.IsSound := by
  cases r with
  | update now fresh =>
      have hsorted := Table.sorted_ofList fresh
      obtain ⟨hpasses, hsound⟩ :=
        s.scheduler.passes_applyAll h.zones now hsorted.nodup name
      have hkept := s.schedules_update now (Table.ofList fresh)
      refine ⟨?_, ?_, ?_⟩
      · simp only [round, update, Scheduler.update_eq_applyAll]
        exact hpasses
      · simpa [round, update, Scheduler.update_eq_applyAll] using hsound
      · rw [round, hkept]
        exact Table.sorted_insertAll h.schedules _
  | tick now =>
      obtain ⟨hpasses, hsound⟩ :=
        s.scheduler.passes_applyAll h.zones now h.schedules.nodup name
      refine ⟨hpasses, hsound, ?_⟩
      rw [round, schedules_tick]
      exact h.schedules

theorem IsSound.step {s : ScheduledZones ν} (h : s.IsSound) (act : ScheduleAct ν) :
    (s.step act).IsSound := by
  cases act with
  | round r => exact (h.passes_round r "").2
  | call zone c =>
      have hzones : Zones.IsSound (s.zones.modify zone fun z => z.call c) := by
        refine h.zones.modify fun z hz => ?_
        obtain ⟨hconsistent, hname⟩ := h.zones _ hz
        exact ⟨hconsistent.call c, (z.call_frame c).1.trans hname⟩
      exact ⟨hzones, h.schedules⟩

theorem IsSound.after {s : ScheduledZones ν} (h : s.IsSound) (acts : List (ScheduleAct ν)) :
    (s.after acts).IsSound := by
  induction acts generalizing s with
  | nil => exact h
  | cons act rest ih => exact ih (h.step act)

/-- A fresh scheduler with zones that stand under their names, each made and used in any way. -/
structure Starts (s : ScheduledZones ν) : Prop where
  scheduler : ∃ settings, Scheduler.create settings = .ok s.scheduler
  zones : ∀ e ∈ s.zones, e.2.name = e.1 ∧ ∃ thermostat settings economizer new calls,
    Zone.create thermostat settings economizer = .ok new ∧ e.2 = new.after calls

theorem Starts.scheduler_eq {s : ScheduledZones ν} (h : s.Starts) :
    s.scheduler.schedules = [] ∧ s.scheduler.current = [] ∧ s.scheduler.held = [] := by
  obtain ⟨settings, hcreate⟩ := h.scheduler
  obtain ⟨-, -, heq⟩ := Outcome.of_map_eq_ok hcreate
  rw [← heq]
  exact ⟨rfl, rfl, rfl⟩

theorem Starts.isSound {s : ScheduledZones ν} (h : s.Starts) : s.IsSound := by
  refine ⟨?_, ?_⟩
  · intro e he
    obtain ⟨hname, thermostat, settings, economizer, new, calls, hnew, heq⟩ := h.zones e he
    rw [heq] at hname ⊢
    exact ⟨((Zone.isConsistent_create hnew).1.after calls).1, hname⟩
  · rw [h.scheduler_eq.1]
    exact Table.sorted_nil

omit [Scalar ν] in
theorem track?_eq_some {s : ScheduledZones ν} {name : String} {t : Track ν}
    (h : s.track? name = some t) :
    s.zones.get? name = some t.zone ∧ t.current = s.scheduler.current.get? name ∧
      t.held = s.scheduler.held.get? name := by
  obtain ⟨z, hz, rfl⟩ := Scheduler.track?_eq_some_iff.mp h
  exact ⟨hz, rfl, rfl⟩

/-! ## A den -/

/-- A fresh scheduler with one zone. -/
def ofZone (z : Zone ν) : ScheduledZones ν := ⟨⟨.standard, [], [], []⟩, [(z.name, z)]⟩

theorem starts_ofZone {thermostat : Thermostat ν} {settings : ZoneSettings ν}
    {economizer : Option (Economizer ν)} {z : Zone ν}
    (h : Zone.create thermostat settings economizer = .ok z) : (ofZone z).Starts := by
  refine ⟨⟨.standard, rfl⟩, fun e he => ?_⟩
  rw [List.mem_singleton.mp he]
  exact ⟨rfl, thermostat, settings, economizer, z, [], h, rfl⟩

end ScheduledZones

/-- From eight to ten in the evening, on all days. -/
def Period.day : Period := ⟨"1", "day", .ofClock 8 0 0 0, .ofClock 22 0 0 0, 127⟩

/-- From ten in the evening to eight, on all days. -/
def Period.night : Period := ⟨"2", "night", .ofClock 22 0 0 0, .ofClock 8 0 0 0, 127⟩

/-- A day of 24 degrees and a night of 18. -/
def Schedule.dayAndNight : Schedule Rat :=
  [(.day, { setpoint := some 24 }), (.night, { setpoint := some 18 })]

/-- A den that is to have 20 degrees. -/
def Zone.den : Except (ZoneError Rat) (Zone Rat) := do
  let thermostat ← Thermostat.create "den" 20 .standard (PidSettings.ofGains 1 1 0 0)
  Zone.create thermostat {} none

theorem Zone.exists_den (test : Zone Rat → Bool) (h : Outcome.holds Zone.den test = true) :
    ∃ z, (ScheduledZones.ofZone z).Starts ∧ z.period = none ∧ test z = true := by
  obtain ⟨z, hz, htest⟩ := Outcome.exists_of_holds h
  obtain ⟨_, -, hcreate⟩ := Outcome.of_bind_eq_ok hz
  exact ⟨z, ScheduledZones.starts_ofZone hcreate, (isConsistent_create hcreate).2.2, htest⟩

theorem Zone.accepts_setpoint {z : Zone Rat} {s : Rat}
    (hs : z.thermostat.range.contains s = true) : z.Accepts { setpoint := some s } := by
  refine ⟨fun s' hs' => ?_, nofun⟩
  cases hs'
  exact ⟨hs, rfl⟩

end HomeClimate
