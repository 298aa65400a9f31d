import HomeClimate.Proofs.Schedule.Track

/-!
# What a zone remembers of its schedule

A zone remembers the name of a period, and the scheduler remembers two periods for it:
the one that was applied last, and one that was recorded while the zone was on hold.

*What is so.*  With one schedule whose settings the zone takes, the zone remembers the
period that was recorded on hold, if there is one, and else the one that was applied last
(`Track.Recalls`).  A tick makes it remember the period in effect, or none if none is,
whether it is on hold or not.

*What is not so.*  A tick compares the period in effect with the one that was applied
last and with nothing else.  If a zone on hold has recorded another period since then,
and the period that was applied last is in effect again, the tick finds nothing to do, and
the zone goes on remembering the other one (`recorded_night_by_day`).  The scheduler
*overlooks* the zone then, and `Starts.recorded_after_tick` says that this is the only
case.
-/

namespace HomeClimate

variable {ν : Type} [Scalar ν]

/-- The name of the period that a zone remembers. -/
def Zone.recorded (z : Zone ν) : Option String := z.period.map PeriodSettings.period

theorem Zone.accepts_dayAndNight {z : Zone Rat}
    (hday : z.thermostat.range.contains 24 = true) (hnight : z.thermostat.range.contains 18 = true) :
    ∀ e ∈ Schedule.dayAndNight, z.Accepts e.2 := by
  simp only [Schedule.dayAndNight, List.forall_mem_cons]
  exact ⟨Zone.accepts_setpoint hday, Zone.accepts_setpoint hnight,
    fun _ he => absurd he List.not_mem_nil⟩

/-! ## One zone -/

namespace Track

/-- The zone remembers the period that was recorded on hold, or else the one applied last, and
these are not the same. -/
structure Recalls (t : Track ν) : Prop where
  recorded : t.zone.recorded = (t.held.or t.current).map Period.name
  held : ∀ p, t.held = some p → t.current ≠ some p

/-- The period that was applied last is in effect, but the zone has recorded another one. -/
def Overlooks (t : Track ν) (found : Option Period) : Prop :=
  t.current = found ∧ t.held.isSome = true

/-- Settings that the zone takes are recalled, and recorded unless they are overlooked. -/
theorem Applied.recalls {t t' : Track ν} {found : Option (Period × ZoneSettings ν)}
    {events : List (Option (Period × ZoneSettings ν))} (h : t.Applied found t' events)
    (ht : t.Recalls) (hu : ∀ p wanted, found = some (p, wanted) → t.zone.Accepts wanted) :
    t'.Recalls ∧
      (¬ t.Overlooks (found.map Prod.fst) →
        t'.zone.recorded = (found.map Prod.fst).map Period.name) ∧
      (t.Overlooks (found.map Prod.fst) → ∃ p, t.held = some p ∧
        some p ≠ found.map Prod.fst ∧ t'.zone.recorded = some p.name) := by
  cases h with
  | there hthere =>
      refine ⟨ht, fun hnot => ?_, fun hover => ?_⟩
      · have hnone : t.held = none := by simpa [Overlooks, hthere] using hnot
        rw [ht.recorded, hnone, hthere]
        rfl
      · obtain ⟨p, hp⟩ := Option.isSome_iff_exists.mp hover.2
        refine ⟨p, hp, ?_, ?_⟩
        · rw [← hthere]
          exact (ht.held p hp).symm
        · rw [ht.recorded, hp]
          rfl
  | cleared hcurrent =>
      refine ⟨⟨rfl, fun p hp => nomatch hp⟩, fun _ => rfl, fun hover => ?_⟩
      exact absurd hover.1 hcurrent
  | remembered hcurrent _ hheld =>
      refine ⟨ht, fun _ => ?_, fun hover => absurd hover.1 hcurrent⟩
      rw [ht.recorded, hheld]
      rfl
  | recorded hcurrent =>
      refine ⟨⟨rfl, fun p hp => ?_⟩, fun _ => rfl, fun hover => absurd hover.1 hcurrent⟩
      cases hp
      exact hcurrent
  | entered hcurrent _ _ _ hperiod =>
      refine ⟨⟨?_, fun p hp => nomatch hp⟩, fun _ => ?_, fun hover => absurd hover.1 hcurrent⟩
      · simp [Zone.recorded, hperiod]
      · simp [Zone.recorded, hperiod]
  | rejected _ _ hnot => exact absurd (hu _ _ rfl) hnot

/-- A round leaves a track that is recalled one that is recalled. -/
theorem Passes.recalls {now : Instant} {schedule : Option (Schedule ν)} {t : Track ν}
    {t' : Option (Track ν)} {events : List (Option (Period × ZoneSettings ν))}
    (h : Passes now schedule (some t) t' events) (hz : t.zone.IsConsistent) (ht : t.Recalls)
    (hu : ∀ entries ∈ schedule, ∀ e ∈ entries, t.zone.Accepts e.2) :
    ∃ t₁, t' = some t₁ ∧ t₁.Recalls ∧
      t₁.zone.thermostat.range = t.zone.thermostat.range := by
  cases h with
  | unscheduled => exact ⟨t, rfl, ht, rfl⟩
  | applied happlied =>
      refine ⟨_, rfl, (happlied.recalls ht fun p wanted hfound => ?_).1, (happlied.frame hz).2.2⟩
      exact hu _ rfl _ (mem_of_bestMatch? hfound)

end Track

/-! ## Runs -/

/-- Whether an act is neither an update nor a change of period by someone else. -/
def ScheduleAct.isOrdinary : ScheduleAct ν → Bool
  | .round (.update _ _) => false
  | .round (.tick _) => true
  | .call _ c => !c.isPeriod

namespace ScheduledZones

/-- The scheduler has a certain schedule for a zone, or none, and the zone, of a certain range,
is recalled. -/
structure Follows (s : ScheduledZones ν) (name : String) (schedule : Option (Schedule ν))
    (range : SetpointRange ν) : Prop where
  sound : s.IsSound
  schedule : s.scheduler.schedules.get? name = schedule
  track : ∃ t, s.track? name = some t ∧ t.Recalls ∧ t.zone.thermostat.range = range

/-- The zone of a sound track is consistent. -/
theorem IsSound.of_track? {s : ScheduledZones ν} (h : s.IsSound) {name : String} {t : Track ν}
    (ht : s.track? name = some t) : t.zone.IsConsistent :=
  (h.zones.of_get? (track?_eq_some ht).1).1

/-- A tick goes on with the schedule at hand. -/
theorem Follows.tick {s : ScheduledZones ν} {name : String} {schedule : Option (Schedule ν)}
    {z : Zone ν} (h : s.Follows name schedule z.thermostat.range)
    (hu : ∀ entries ∈ schedule, ∀ e ∈ entries, z.Accepts e.2) (now : Instant) :
    (s.tick now).1.Follows name schedule z.thermostat.range := by
  obtain ⟨t, ht, hrecalls, hrange⟩ := h.track
  obtain ⟨hpasses, hsound⟩ := h.sound.passes_round (.tick now) name
  have hschedule : (ScheduleRound.tick now).schedule? s.scheduler name = schedule := h.schedule
  rw [ht, hschedule] at hpasses
  obtain ⟨t', ht', hrecalls', hrange'⟩ := hpasses.recalls (h.sound.of_track? ht) hrecalls
    fun entries hentries e he => (hu entries hentries e he).of_range hrange
  refine ⟨hsound, ?_, t', ht', hrecalls', hrange'.trans hrange⟩
  rw [schedules_tick]
  exact h.schedule

/-- An update brings a schedule for a zone that had none. -/
theorem Follows.update {s : ScheduledZones ν} {name : String} {schedule : Schedule ν}
    {z : Zone ν} (h : s.Follows name none z.thermostat.range) {fresh : List (String × Schedule ν)}
    (hfresh : (Table.ofList fresh).get? name = some schedule)
    (hu : ∀ e ∈ schedule, z.Accepts e.2) (now : Instant) :
    (s.update now (Table.ofList fresh)).1.Follows name (some schedule) z.thermostat.range := by
  obtain ⟨t, ht, hrecalls, hrange⟩ := h.track
  obtain ⟨hpasses, hsound⟩ := h.sound.passes_round (.update now fresh) name
  have hschedule : (ScheduleRound.update now fresh).schedule? s.scheduler name =
      some schedule := hfresh
  rw [ht, hschedule] at hpasses
  obtain ⟨t', ht', hrecalls', hrange'⟩ := hpasses.recalls (h.sound.of_track? ht) hrecalls
    fun entries hentries e he => by
      cases hentries
      exact (hu e he).of_range hrange
  refine ⟨hsound, ?_, t', ht', hrecalls', hrange'.trans hrange⟩
  have hknown : s.zones.has name = true :=
    Table.has_iff.mpr (List.mem_map_of_mem (Table.mem_of_get? (track?_eq_some ht).1))
  have hfilter : Table.Sorted ((Table.ofList fresh).filter fun e => s.zones.has e.1) :=
    (Table.sorted_ofList fresh).filter _
  rw [schedules_update, Table.get?_insertAll hfilter.nodup, Table.get?_filter, hknown, hfresh]
  rfl

/-- What is done to a zone other than to give it a period is nothing to what it recalls. -/
theorem Follows.call {s : ScheduledZones ν} {name : String} {schedule : Option (Schedule ν)}
    {range : SetpointRange ν} (h : s.Follows name schedule range) (zone : String)
    {c : ZoneCall ν} (hc : c.isPeriod = false) :
    (s.step (.call zone c)).Follows name schedule range := by
  obtain ⟨t, ht, hrecalls, hrange⟩ := h.track
  refine ⟨h.sound.step _, h.schedule, ?_⟩
  obtain ⟨z, hz, rfl⟩ := Scheduler.track?_eq_some_iff.mp ht
  by_cases hname : zone = name
  · subst hname
    refine ⟨s.scheduler.track zone (z.call c), ?_, ⟨?_, hrecalls.held⟩, ?_⟩
    · simp [track?, Scheduler.track?, step, Table.get?_modify, hz]
    · have hperiod := z.call_period hc
      simpa [Scheduler.track, Zone.recorded, hperiod] using hrecalls.recorded
    · exact (z.call_frame c).2.trans hrange
  · refine ⟨_, ?_, hrecalls, hrange⟩
    simp [track?, Scheduler.track?, step, Table.get?_modify, hname, hz]

theorem Follows.after {s : ScheduledZones ν} {name : String} {schedule : Option (Schedule ν)}
    {z : Zone ν} (h : s.Follows name schedule z.thermostat.range)
    (hu : ∀ entries ∈ schedule, ∀ e ∈ entries, z.Accepts e.2) {acts : List (ScheduleAct ν)}
    (hacts : ∀ act ∈ acts, act.isOrdinary = true) :
    (s.after acts).Follows name schedule z.thermostat.range := by
  induction acts generalizing s with
  | nil => exact h
  | cons act rest ih =>
      obtain ⟨hact, hrest⟩ := List.forall_mem_cons.mp hacts
      refine ih ?_ hrest
      cases act with
      | round r =>
          cases r with
          | update now fresh => cases hact
          | tick now => exact h.tick hu now
      | call zone c => exact h.call zone (by simpa [ScheduleAct.isOrdinary] using hact)

theorem Starts.follows {s : ScheduledZones ν} (h : s.Starts) {name : String} {z : Zone ν}
    (hz : s.zones.get? name = some z) (hperiod : z.period = none) :
    s.Follows name none z.thermostat.range := by
  obtain ⟨hschedules, hcurrent, hheld⟩ := h.scheduler_eq
  refine ⟨h.isSound, ?_, s.scheduler.track name z, ?_, ⟨?_, ?_⟩, rfl⟩
  · simp [hschedules, Table.get?]
  · exact Scheduler.track?_eq_some_iff.mpr ⟨z, hz, rfl⟩
  · simp [Scheduler.track, hcurrent, hheld, Zone.recorded, hperiod, Table.get?]
  · simp [Scheduler.track, hheld, Table.get?]

/-- The scheduler would not tell the zone that a period is in effect that was applied before. -/
def Overlooks (s : ScheduledZones ν) (name : String) (found : Option Period) : Prop :=
  s.scheduler.current? name = found ∧ (s.scheduler.held.get? name).isSome = true

/-- After a tick a zone remembers the period in effect of the schedule that one update brought,
or none if none is.  If the scheduler overlooks the zone it remembers another period, the one that
was recorded on hold. -/
theorem Starts.recorded_after_tick {s : ScheduledZones ν} (h : s.Starts) {name : String}
    {z : Zone ν} (hz : s.zones.get? name = some z) (hperiod : z.period = none)
    {fresh : List (String × Schedule ν)} {schedule : Schedule ν}
    (hfresh : (Table.ofList fresh).get? name = some schedule)
    (hu : ∀ e ∈ schedule, z.Accepts e.2) {before between : List (ScheduleAct ν)}
    (hbefore : ∀ act ∈ before, act.isOrdinary = true)
    (hbetween : ∀ act ∈ between, act.isOrdinary = true) (start now : Instant) :
    let last := s.after (before ++ .round (.update start fresh) :: between)
    let found := (bestMatch? schedule now).map Prod.fst
    ∃ z', (last.tick now).1.zones.get? name = some z' ∧
      (¬ last.Overlooks name found → z'.recorded = found.map Period.name) ∧
      (last.Overlooks name found → ∃ p, last.scheduler.held.get? name = some p ∧
        some p ≠ found ∧ z'.recorded = some p.name) := by
  intro last found
  have hlast : last.Follows name (some schedule) z.thermostat.range := by
    have hold := (h.follows hz hperiod).after (fun _ he => nomatch he) hbefore
    have hnew := (hold.update hfresh hu start).after
      (fun entries hentries e he => hu e (by cases hentries; exact he)) hbetween
    simpa [last, after, step, round] using hnew
  obtain ⟨t, ht, hrecalls, hrange⟩ := hlast.track
  obtain ⟨hpasses, -⟩ := hlast.sound.passes_round (.tick now) name
  have hschedule : (ScheduleRound.tick now).schedule? last.scheduler name = some schedule :=
    hlast.schedule
  rw [ht, hschedule] at hpasses
  generalize hnext : (last.round (.tick now)).1.track? name = next at hpasses
  cases hpasses with
  | applied happlied =>
      obtain ⟨hz', -, -⟩ := track?_eq_some hnext
      obtain ⟨z₁, -, rfl⟩ := Scheduler.track?_eq_some_iff.mp ht
      obtain ⟨-, hright, hwrong⟩ := happlied.recalls hrecalls fun p wanted hfound =>
        (hu _ (mem_of_bestMatch? hfound)).of_range hrange
      exact ⟨_, hz', hright, hwrong⟩

/-- A den on hold remembers the night in the evening. -/
theorem recorded_after_tick_in_den :
    let start : ScheduleAct Rat :=
      .round (.update (.ofEpoch (9 * 3600) 0) [("den", Schedule.dayAndNight)])
    let hold : ScheduleAct Rat := .call "den" (.settings { hold := some true })
    let evening : Instant := .ofEpoch (23 * 3600) 0
    ∃ (s : ScheduledZones Rat) (z z' : Zone Rat), s.Starts ∧ s.zones.get? "den" = some z ∧
      z.period = none ∧ (∀ e ∈ Schedule.dayAndNight, z.Accepts e.2) ∧
      ((s.after [start, hold]).tick evening).1.zones.get? "den" = some z' ∧
      z'.recorded = some "night" := by
  intro start hold evening
  obtain ⟨den, hstarts, hperiod, htest⟩ := Zone.exists_den
    (fun den => den.name == "den" && den.thermostat.range.contains 24 &&
      den.thermostat.range.contains 18 &&
      ((ofZone den).after [start, hold]).scheduler.current? "den" == some .day)
    (by decide +kernel)
  simp only [Bool.and_eq_true, beq_iff_eq] at htest
  obtain ⟨⟨⟨hname, hday⟩, hnight⟩, hcurrent⟩ := htest
  have hz : (ofZone den).zones.get? "den" = some den := by simp [ofZone, Table.get?_cons, hname]
  have hu := Zone.accepts_dayAndNight hday hnight
  have hnone : ∀ act ∈ ([] : List (ScheduleAct Rat)), act.isOrdinary = true := by simp
  have hordinary : ∀ act ∈ [hold], act.isOrdinary = true := by
    simp [hold, ScheduleAct.isOrdinary, ZoneCall.isPeriod]
  have hfresh : (Table.ofList [("den", Schedule.dayAndNight)]).get? "den" =
      some Schedule.dayAndNight := rfl
  have hfound : (bestMatch? Schedule.dayAndNight evening).map Prod.fst = some .night := by
    decide +kernel
  obtain ⟨z', hz', hright, -⟩ := hstarts.recorded_after_tick hz hperiod hfresh hu hnone hordinary
    (.ofEpoch (9 * 3600) 0) evening
  simp only [List.nil_append] at hz' hright
  refine ⟨ofZone den, den, z', hstarts, hz, hperiod, hu, hz', ?_⟩
  rw [hright, hfound]
  · rfl
  · rintro ⟨hover, -⟩
    rw [hcurrent, hfound] at hover
    exact absurd hover (by decide)

/-- A den that goes on hold by day records the night in the evening, and goes on remembering it the
next morning, when the day is in effect again. -/
theorem recorded_night_by_day :
    let acts : List (ScheduleAct Rat) :=
      [.round (.update (.ofEpoch (9 * 3600) 0) [("den", Schedule.dayAndNight)]),
        .call "den" (.settings { hold := some true }), .round (.tick (.ofEpoch (23 * 3600) 0))]
    let morning : Instant := .ofEpoch (33 * 3600) 0
    ∃ (s : ScheduledZones Rat) (z z' : Zone Rat), s.Starts ∧ s.zones.get? "den" = some z ∧
      z.period = none ∧ (∀ e ∈ Schedule.dayAndNight, z.Accepts e.2) ∧
      z.Accepts { hold := some true } ∧
      ((s.after acts).tick morning).1.zones.get? "den" = some z' ∧
      z'.settings.isOnHold = true ∧ z'.recorded = some "night" ∧
      (bestMatch? Schedule.dayAndNight morning).map (fun e => e.1.name) = some "day" := by
  intro acts morning
  obtain ⟨den, hstarts, hperiod, htest⟩ := Zone.exists_den
    (fun den => den.name == "den" && den.thermostat.range.contains 24 &&
      den.thermostat.range.contains 18 &&
      ((((ofZone den).after acts).tick morning).1.zones.get? "den").any fun z' =>
        z'.settings.isOnHold && z'.recorded == some "night")
    (by decide +kernel)
  simp only [Bool.and_eq_true, beq_iff_eq, Option.any_eq_true] at htest
  obtain ⟨⟨⟨hname, hday⟩, hnight⟩, z', hz', hon, hrecorded⟩ := htest
  have hz : (ofZone den).zones.get? "den" = some den := by simp [ofZone, Table.get?_cons, hname]
  have hfound : (bestMatch? Schedule.dayAndNight morning).map (fun e => e.1.name) = some "day" := by
    decide +kernel
  exact ⟨ofZone den, den, z', hstarts, hz, hperiod, Zone.accepts_dayAndNight hday hnight,
    ⟨nofun, nofun⟩, hz', hon, hrecorded, hfound⟩

end ScheduledZones

end HomeClimate
