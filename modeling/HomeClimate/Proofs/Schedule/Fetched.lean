import HomeClimate.Proofs.Schedule.Track

/-!
# What a fetch changes

An update brings the schedules of some zones.  The scheduler keeps the schedule of a zone until
an update brings another one for it, so the schedule at hand is the one that was fetched last
for the zone (`ScheduledZones.schedule_after`), and a tick takes nothing from any other
(`Starts.tick_takes_from_last_fetch`).  A zone that an update does not mention goes on with what
was fetched for it before (`night_of_older_fetch`); to take a schedule away is to fetch an empty
one.

A zone that is never on hold is in the period that was reported for it last, with the settings
that were reported with it (`Track.Stands`).  An update gives it the period in effect of the
fresh schedule, with the fresh settings, if that is another period than the current one.  If it
is the current one the zone is there already, and it is left alone even if the fresh schedule has
other settings for the period (`Starts.period_after_update`, `day_of_older_fetch`).
-/

namespace HomeClimate

variable {ν : Type} [Scalar ν]

/-! ## The schedule at hand -/

namespace ScheduleAct

/-- Whether schedules are fetched. -/
def isFetch : ScheduleAct ν → Bool
  | .round (.update _ _) => true
  | .round (.tick _) => false
  | .call _ _ => false

/-- The schedule that is fetched for a zone, if there is one. -/
def fetched? (name : String) : ScheduleAct ν → Option (Schedule ν)
  | .round (.update _ fresh) => (Table.ofList fresh).get? name
  | .round (.tick _) => none
  | .call _ _ => none

/-- The schedule that was fetched for a zone last, if any was. -/
def lastFetched? (name : String) (acts : List (ScheduleAct ν)) : Option (Schedule ν) :=
  (acts.filterMap (fetched? name)).getLast?

omit [Scalar ν] in
theorem lastFetched?_append (name : String) (acts more : List (ScheduleAct ν)) :
    lastFetched? name (acts ++ more) = (lastFetched? name more).or (lastFetched? name acts) := by
  simp [lastFetched?, List.getLast?_append]

omit [Scalar ν] in
theorem lastFetched?_cons (name : String) (act : ScheduleAct ν) (acts : List (ScheduleAct ν)) :
    lastFetched? name (act :: acts) = (lastFetched? name acts).or (act.fetched? name) := by
  rw [← List.singleton_append, lastFetched?_append]
  cases ha : act.fetched? name <;> simp [lastFetched?, ha]

omit [Scalar ν] in
theorem lastFetched?_eq_none {name : String} {acts : List (ScheduleAct ν)}
    (h : ∀ act ∈ acts, act.isFetch = false) : lastFetched? name acts = none := by
  have hnone : acts.filterMap (fetched? name) = [] := by
    refine List.filterMap_eq_nil_iff.mpr fun act hact => ?_
    cases act with
    | round r =>
        cases r with
        | update now fresh => cases h _ hact
        | tick now => rfl
    | call zone c => rfl
  rw [lastFetched?, hnone]
  rfl

end ScheduleAct

namespace ScheduledZones

open ScheduleAct (lastFetched?)

theorem keys_step (s : ScheduledZones ν) (act : ScheduleAct ν) :
    (s.step act).zones.keys = s.zones.keys := by
  cases act with
  | round r =>
      cases r with
      | update now fresh => exact s.scheduler.keys_update s.zones now _
      | tick now => exact s.scheduler.keys_tick s.zones now
  | call zone c => exact Table.keys_modify s.zones zone fun z => z.call c

theorem keys_after (s : ScheduledZones ν) (acts : List (ScheduleAct ν)) :
    (s.after acts).zones.keys = s.zones.keys := by
  induction acts generalizing s with
  | nil => rfl
  | cons act rest ih => exact (ih (s.step act)).trans (s.keys_step act)

theorem schedule_step (s : ScheduledZones ν) {name : String} (hknown : name ∈ s.zones.keys)
    (act : ScheduleAct ν) :
    (s.step act).scheduler.schedules.get? name =
      (act.fetched? name).or (s.scheduler.schedules.get? name) := by
  cases act with
  | round r =>
      cases r with
      | update now fresh =>
          have hfresh : Table.Sorted ((Table.ofList fresh).filter fun e => s.zones.has e.1) :=
            (Table.sorted_ofList fresh).filter _
          rw [step, round, schedules_update, Table.get?_insertAll hfresh.nodup, Table.get?_filter,
            if_pos (Table.has_iff.mpr hknown)]
          rfl
      | tick now => exact congrArg (Table.get? · name) (s.schedules_tick now)
  | call zone c => rfl

/-- The schedule that a scheduler has for a known zone is the one that was fetched last. -/
theorem schedule_after (s : ScheduledZones ν) {name : String} (hknown : name ∈ s.zones.keys)
    (acts : List (ScheduleAct ν)) :
    (s.after acts).scheduler.schedules.get? name =
      (lastFetched? name acts).or (s.scheduler.schedules.get? name) := by
  induction acts generalizing s with
  | nil => rfl
  | cons act rest ih =>
      have hknown' : name ∈ (s.step act).zones.keys := by rw [s.keys_step]; exact hknown
      rw [ScheduleAct.lastFetched?_cons, Option.or_assoc, ← s.schedule_step hknown act]
      exact ih (s.step act) hknown'

end ScheduledZones

/-! ## What a tick takes -/

/-- What was reported of a zone and what became of its settings and its period came out of a
schedule. -/
structure Zone.TakesFrom (z z' : Zone ν) (schedule : Option (Schedule ν))
    (events : List (Option (Period × ZoneSettings ν))) : Prop where
  /-- Without a schedule nothing happens. -/
  unscheduled : schedule = none → z' = z ∧ events = []
  reported : ∀ p wanted, some (p, wanted) ∈ events →
    ∃ entries, schedule = some entries ∧ (p, wanted) ∈ entries
  settings : z'.settings = z.settings ∨ ∃ entries p wanted, schedule = some entries ∧
    (p, wanted) ∈ entries ∧ z'.settings = z.settings.merge wanted
  period : z'.period = z.period ∨ z'.period = none ∨ ∃ entries p wanted,
    schedule = some entries ∧ (p, wanted) ∈ entries ∧ z'.period = some ⟨p.name, wanted⟩

namespace Track

theorem Applied.takesFrom {t t' : Track ν} {schedule : Schedule ν} {now : Instant}
    {events : List (Option (Period × ZoneSettings ν))}
    (h : t.Applied (bestMatch? schedule now) t' events) :
    t.zone.TakesFrom t'.zone (some schedule) events := by
  generalize hfound : bestMatch? schedule now = found at h
  have hmem : ∀ {p wanted}, found = some (p, wanted) → (p, wanted) ∈ schedule := by
    rintro p wanted rfl
    exact mem_of_bestMatch? hfound
  cases h with
  | there => exact ⟨nofun, by simp, .inl rfl, .inl rfl⟩
  | cleared => exact ⟨nofun, by simp, .inl rfl, .inr (.inl rfl)⟩
  | remembered => exact ⟨nofun, by simp, .inl rfl, .inl rfl⟩
  | @recorded p wanted =>
      exact ⟨nofun, by simp, .inl rfl, .inr (.inr ⟨schedule, p, wanted, rfl, hmem rfl, rfl⟩)⟩
  | @entered p wanted _ _ _ _ hmerged hperiod =>
      refine ⟨nofun, fun p' wanted' hreported => ?_,
        .inr ⟨schedule, p, wanted, rfl, hmem rfl, hmerged⟩,
        .inr (.inr ⟨schedule, p, wanted, rfl, hmem rfl, hperiod⟩)⟩
      cases List.mem_singleton.mp hreported
      exact ⟨schedule, rfl, hmem rfl⟩
  | @rejected p wanted =>
      exact ⟨nofun, by simp, .inl rfl, .inr (.inr ⟨schedule, p, wanted, rfl, hmem rfl, rfl⟩)⟩

theorem Passes.takesFrom {now : Instant} {schedule : Option (Schedule ν)} {t : Track ν}
    {t' : Option (Track ν)} {events : List (Option (Period × ZoneSettings ν))}
    (h : Passes now schedule (some t) t' events) :
    ∃ t₁, t' = some t₁ ∧ t.zone.TakesFrom t₁.zone schedule events := by
  cases h with
  | unscheduled => exact ⟨t, rfl, fun _ => ⟨rfl, rfl⟩, by simp, .inl rfl, .inl rfl⟩
  | applied happlied => exact ⟨_, rfl, happlied.takesFrom⟩

end Track

namespace ScheduledZones

open ScheduleAct (lastFetched?)

/-- Until the next update a tick takes from the last one what it brought for a zone, and if it
brought nothing, from the last update before that did. -/
theorem Starts.tick_takes_from_last_fetch {s : ScheduledZones ν} (h : s.Starts) {name : String}
    (hknown : name ∈ s.zones.keys) (before : List (ScheduleAct ν)) (start : Instant)
    (fresh : List (String × Schedule ν)) {between : List (ScheduleAct ν)}
    (hbetween : ∀ act ∈ between, act.isFetch = false) (now : Instant) :
    let last := s.after (before ++ .round (.update start fresh) :: between)
    let schedule := ((Table.ofList fresh).get? name).or (lastFetched? name before)
    last.scheduler.schedules.get? name = schedule ∧
      ∃ z z', last.zones.get? name = some z ∧ (last.tick now).1.zones.get? name = some z' ∧
        z.TakesFrom z' schedule (eventsOf name (last.tick now).2) := by
  intro last schedule
  have hschedule : last.scheduler.schedules.get? name = schedule := by
    have hempty : s.scheduler.schedules.get? name = none := by
      rw [h.scheduler_eq.1]
      rfl
    rw [s.schedule_after hknown, ScheduleAct.lastFetched?_append, ScheduleAct.lastFetched?_cons,
      ScheduleAct.lastFetched?_eq_none hbetween, hempty, Option.or_none]
    rfl
  have hlast : name ∈ last.zones.keys := by rw [s.keys_after]; exact hknown
  obtain ⟨z, hz⟩ := Table.exists_get? hlast
  have ht : last.track? name = some (last.scheduler.track name z) :=
    Scheduler.track?_eq_some_iff.mpr ⟨z, hz, rfl⟩
  obtain ⟨hpasses, -⟩ := (h.isSound.after _).passes_round (.tick now) name
  rw [ht] at hpasses
  obtain ⟨t', ht', htakes⟩ := hpasses.takesFrom
  obtain ⟨hz', -, -⟩ := track?_eq_some ht'
  exact ⟨hschedule, z, t'.zone, hz, hz', hschedule ▸ htakes⟩

/-- A den for which only a day is fetched, after a day and a night were, is given nothing else in
the evening. -/
theorem tick_takes_from_last_fetch_in_den :
    let morning : Instant := .ofEpoch (9 * 3600) 0
    let evening : Instant := .ofEpoch (23 * 3600) 0
    let onlyDay : Schedule Rat := [(.day, { setpoint := some 22 })]
    let acts : List (ScheduleAct Rat) :=
      [.round (.update morning [("den", Schedule.dayAndNight)]),
        .round (.update morning [("den", onlyDay)]), .round (.tick morning)]
    ∃ (s last : ScheduledZones Rat) (z z' : Zone Rat), s.Starts ∧ "den" ∈ s.zones.keys ∧
      last = s.after acts ∧ last.scheduler.schedules.get? "den" = some onlyDay ∧
      last.zones.get? "den" = some z ∧ (last.tick evening).1.zones.get? "den" = some z' ∧
      z.TakesFrom z' (some onlyDay) (eventsOf "den" (last.tick evening).2) := by
  intro morning evening onlyDay acts
  obtain ⟨den, hstarts, -, hname⟩ := Zone.exists_den (fun den => den.name == "den")
    (by decide +kernel)
  have hknown : "den" ∈ (ofZone den).zones.keys := by
    simp [ofZone, Table.keys, beq_iff_eq.mp hname]
  have hbetween : ∀ act ∈ [(.round (.tick morning) : ScheduleAct Rat)], act.isFetch = false := by
    simp [ScheduleAct.isFetch]
  obtain ⟨hschedule, z, z', hz, hz', htakes⟩ :=
    hstarts.tick_takes_from_last_fetch hknown
      [.round (.update morning [("den", Schedule.dayAndNight)])] morning [("den", onlyDay)]
      hbetween evening
  have hfetched : (Table.ofList [("den", onlyDay)]).get? "den" = some onlyDay := rfl
  rw [hfetched, Option.some_or] at hschedule htakes
  refine ⟨ofZone den, _, z, z', hstarts, hknown, ?_, hschedule, hz, hz', htakes⟩
  rfl

/-- A den for which a day and a night were fetched enters the night in the evening, although the
last update brought nothing for it. -/
theorem night_of_older_fetch :
    let morning : Instant := .ofEpoch (9 * 3600) 0
    let evening : Instant := .ofEpoch (23 * 3600) 0
    let acts : List (ScheduleAct Rat) :=
      [.round (.update morning [("den", Schedule.dayAndNight)]), .round (.update morning [])]
    ∃ (s : ScheduledZones Rat) (wanted : ZoneSettings Rat), s.Starts ∧
      ⟨"den", some (.night, wanted)⟩ ∈ ((s.after acts).tick evening).2 := by
  intro morning evening acts
  obtain ⟨den, hstarts, -, htest⟩ := Zone.exists_den
    (fun den => (((ofZone den).after acts).tick evening).2.any fun e =>
      e.zone == "den" && e.period.any fun found => found.1 == .night)
    (by decide +kernel)
  simp only [List.any_eq_true, Bool.and_eq_true, beq_iff_eq, Option.any_eq_true] at htest
  obtain ⟨⟨zone, period⟩, hmem, rfl, ⟨p, wanted⟩, rfl, rfl⟩ := htest
  exact ⟨ofZone den, wanted, hstarts, hmem⟩

end ScheduledZones

/-! ## The period that was reported last -/

namespace Track

/-- The current period of a zone is the one that was reported last, and the zone remembers it with
the settings that were reported. -/
def Stands (t : Track ν) (reported : List (Option (Period × ZoneSettings ν))) : Prop :=
  ∀ p, t.current = some p → ∃ given, reported.getLast? = some (some (p, given)) ∧
    t.zone.period = some ⟨p.name, given⟩

theorem Applied.stands {t t' : Track ν} {found : Option (Period × ZoneSettings ν)}
    {reported events : List (Option (Period × ZoneSettings ν))} (h : t.Applied found t' events)
    (hold : t.zone.settings.isOnHold = false) (ht : t.Stands reported) :
    t'.Stands (reported ++ events) := by
  cases h with
  | there => simpa using ht
  | cleared => exact fun p hp => nomatch hp
  | remembered _ hon =>
      rw [hold] at hon
      cases hon
  | recorded _ hon =>
      rw [hold] at hon
      cases hon
  | entered _ _ _ _ hperiod =>
      intro p hp
      cases hp
      exact ⟨_, List.getLast?_concat, hperiod⟩
  | rejected => exact fun p hp => nomatch hp

theorem Passes.stands {now : Instant} {schedule : Option (Schedule ν)} {t : Track ν}
    {t' : Option (Track ν)} {reported events : List (Option (Period × ZoneSettings ν))}
    (h : Passes now schedule (some t) t' events) (hold : t.zone.settings.isOnHold = false)
    (ht : t.Stands reported) : ∃ t₁, t' = some t₁ ∧ t₁.Stands (reported ++ events) := by
  cases h with
  | unscheduled => exact ⟨t, rfl, by simpa using ht⟩
  | applied happlied => exact ⟨_, rfl, happlied.stands hold ht⟩

/-- A zone that is not on hold is in the period that was found, with the settings that were found if
it was not there already. -/
theorem Applied.period_of_found {t t' : Track ν} {p : Period} {wanted : ZoneSettings ν}
    {reported events : List (Option (Period × ZoneSettings ν))}
    (h : t.Applied (some (p, wanted)) t' events) (hold : t.zone.settings.isOnHold = false)
    (ht : t.Stands reported) :
    ∃ given, t'.zone.period = some ⟨p.name, given⟩ ∧ (t.current ≠ some p → given = wanted) ∧
      (t.current = some p → t' = t ∧ reported.getLast? = some (some (p, given))) := by
  cases h with
  | there hthere =>
      obtain ⟨given, hlast, hperiod⟩ := ht p hthere
      exact ⟨given, hperiod, fun hne => absurd hthere hne, fun _ => ⟨rfl, hlast⟩⟩
  | remembered _ hon =>
      rw [hold] at hon
      cases hon
  | recorded _ hon =>
      rw [hold] at hon
      cases hon
  | entered hcurrent _ _ _ hperiod =>
      exact ⟨wanted, hperiod, fun _ => rfl, fun heq => absurd heq hcurrent⟩
  | rejected hcurrent => exact ⟨wanted, rfl, fun _ => rfl, fun heq => absurd heq hcurrent⟩

end Track

namespace ScheduledZones

/-- What is reported in the course of some acts. -/
def reports (s : ScheduledZones ν) : List (ScheduleAct ν) → List (ScheduleEvent ν)
  | [] => []
  | .round r :: acts => (s.round r).2 ++ (s.step (.round r)).reports acts
  | .call zone c :: acts => (s.step (.call zone c)).reports acts

/-- A zone is not on hold at any time in the course of some acts. -/
def NeverOnHold (s : ScheduledZones ν) (name : String) (acts : List (ScheduleAct ν)) : Prop :=
  ∀ before, before <+: acts → ∀ z, (s.after before).zones.get? name = some z →
    z.settings.isOnHold = false

theorem neverOnHold_nil_iff {s : ScheduledZones ν} {name : String} :
    s.NeverOnHold name [] ↔
      ∀ z, s.zones.get? name = some z → z.settings.isOnHold = false := by
  constructor
  · intro h
    exact h [] List.nil_prefix
  · intro h before hbefore
    rw [List.prefix_nil.mp hbefore]
    exact h

theorem neverOnHold_cons_iff {s : ScheduledZones ν} {name : String} {act : ScheduleAct ν}
    {acts : List (ScheduleAct ν)} :
    s.NeverOnHold name (act :: acts) ↔
      (∀ z, s.zones.get? name = some z → z.settings.isOnHold = false) ∧
        (s.step act).NeverOnHold name acts := by
  constructor
  · intro h
    exact ⟨h [] List.nil_prefix, fun before hbefore =>
      h (act :: before) (List.cons_prefix_cons.mpr ⟨rfl, hbefore⟩)⟩
  · rintro ⟨hnow, hlater⟩ before hbefore
    cases before with
    | nil => exact hnow
    | cons first before =>
        obtain ⟨rfl, hrest⟩ := List.cons_prefix_cons.mp hbefore
        exact hlater before hrest

theorem track?_call (s : ScheduledZones ν) (zone : String) (c : ZoneCall ν) (name : String) :
    (s.step (.call zone c)).track? name = (s.track? name).map fun t =>
      if zone = name then { t with zone := t.zone.call c } else t := by
  simp only [track?, Scheduler.track?, step, Table.get?_modify, beq_iff_eq]
  cases s.zones.get? name with
  | none => simp
  | some z =>
      by_cases hname : zone = name
      · simp [hname, Scheduler.track]
      · simp [hname]

/-- As long as a zone is never on hold and nobody else sets its period, it is in the period that was
reported last. -/
theorem IsSound.stands_after {s : ScheduledZones ν} (h : s.IsSound) {name : String} {t : Track ν}
    (ht : s.track? name = some t) {reported : List (Option (Period × ZoneSettings ν))}
    (hstands : t.Stands reported) {acts : List (ScheduleAct ν)}
    (hcalls : ∀ zone c, ScheduleAct.call zone c ∈ acts → c.isPeriod = false)
    (hhold : s.NeverOnHold name acts) :
    ∃ t', (s.after acts).track? name = some t' ∧
      t'.Stands (reported ++ eventsOf name (s.reports acts)) := by
  induction acts generalizing s t reported with
  | nil => exact ⟨t, ht, by simpa [reports, eventsOf] using hstands⟩
  | cons act rest ih =>
      obtain ⟨hnow, hlater⟩ := neverOnHold_cons_iff.mp hhold
      have hcalls' : ∀ zone c, ScheduleAct.call zone c ∈ rest → c.isPeriod = false :=
        fun zone c hmem => hcalls zone c (List.mem_cons_of_mem _ hmem)
      cases act with
      | round r =>
          obtain ⟨hpasses, hsound⟩ := h.passes_round r name
          rw [ht] at hpasses
          obtain ⟨t₁, ht₁, hstands₁⟩ := hpasses.stands (hnow _ (track?_eq_some ht).1) hstands
          rw [reports, eventsOf_append, ← List.append_assoc]
          exact ih hsound ht₁ hstands₁ hcalls' hlater
      | call zone c =>
          have hstep : (s.step (.call zone c)).track? name = _ := s.track?_call zone c name
          rw [ht, Option.map_some] at hstep
          refine ih (h.step _) hstep ?_ hcalls' hlater
          split
          · have hperiod := t.zone.call_period (hcalls zone c List.mem_cons_self)
            intro p hp
            rw [hperiod]
            exact hstands p hp
          · exact hstands

/-- After an update a zone that was never on hold is in the period in effect of its fresh schedule.
If that is not the period it was in, it has the fresh settings.  If it is, the zone is left as it
was, with the settings that were reported last. -/
theorem Starts.period_after_update {s : ScheduledZones ν} (h : s.Starts) {name : String}
    {acts : List (ScheduleAct ν)}
    (hcalls : ∀ zone c, ScheduleAct.call zone c ∈ acts → c.isPeriod = false)
    (hhold : s.NeverOnHold name acts) {z : Zone ν}
    (hz : (s.after acts).zones.get? name = some z) {fresh : List (String × Schedule ν)}
    {schedule : Schedule ν} (hfresh : (Table.ofList fresh).get? name = some schedule)
    {now : Instant} {p : Period} {wanted : ZoneSettings ν}
    (hfound : bestMatch? schedule now = some (p, wanted)) :
    ∃ z' given, ((s.after acts).update now (Table.ofList fresh)).1.zones.get? name = some z' ∧
      z'.period = some ⟨p.name, given⟩ ∧
      ((s.after acts).scheduler.current? name ≠ some p → given = wanted) ∧
      ((s.after acts).scheduler.current? name = some p →
        z' = z ∧ (eventsOf name (s.reports acts)).getLast? = some (some (p, given))) := by
  have hlast : (s.after acts).track? name = some ((s.after acts).scheduler.track name z) :=
    Scheduler.track?_eq_some_iff.mpr ⟨z, hz, rfl⟩
  have hknown : name ∈ s.zones.keys := by
    rw [← s.keys_after acts]
    exact List.mem_map_of_mem (Table.mem_of_get? hz)
  obtain ⟨z₀, hz₀⟩ := Table.exists_get? hknown
  have hstart : s.track? name = some (s.scheduler.track name z₀) :=
    Scheduler.track?_eq_some_iff.mpr ⟨z₀, hz₀, rfl⟩
  have hnone : (s.scheduler.track name z₀).Stands [] := by
    intro p hp
    simp [Scheduler.track, h.scheduler_eq.2.1, Table.get?] at hp
  obtain ⟨t, ht, hstands⟩ := h.isSound.stands_after hstart hnone hcalls hhold
  rw [hlast] at ht
  cases ht
  obtain ⟨hpasses, -⟩ := (h.isSound.after acts).passes_round (.update now fresh) name
  have hschedule : (ScheduleRound.update now fresh).schedule? (s.after acts).scheduler name =
      some schedule := hfresh
  rw [hlast, hschedule] at hpasses
  generalize hnext : ((s.after acts).round (.update now fresh)).1.track? name = next at hpasses
  cases hpasses with
  | applied happlied =>
      have hfound' : bestMatch? schedule (ScheduleRound.update now fresh).now = some (p, wanted) :=
        hfound
      rw [hfound'] at happlied
      obtain ⟨given, hperiod, hother, hsame⟩ :=
        happlied.period_of_found (hhold acts List.prefix_rfl z hz) hstands
      refine ⟨_, given, (track?_eq_some hnext).1, hperiod, hother, fun hcurrent => ?_⟩
      obtain ⟨rfl, hreported⟩ := hsame hcurrent
      exact ⟨rfl, hreported⟩

/-- A den that is in the day when colder nights are fetched enters the night with the fresh
settings. -/
theorem period_after_update_in_den :
    let acts : List (ScheduleAct Rat) :=
      [.round (.update (.ofEpoch (9 * 3600) 0) [("den", Schedule.dayAndNight)])]
    let colder : Schedule Rat :=
      [(.day, { setpoint := some 24 }), (.night, { setpoint := some 16 })]
    let evening : Instant := .ofEpoch (23 * 3600) 0
    ∃ (s : ScheduledZones Rat) (z' : Zone Rat), s.Starts ∧ s.NeverOnHold "den" acts ∧
      (s.after acts).scheduler.current? "den" = some .day ∧
      bestMatch? colder evening = some (.night, { setpoint := some 16 }) ∧
      ((s.after acts).update evening (Table.ofList [("den", colder)])).1.zones.get? "den" =
        some z' ∧
      z'.period = some ⟨"night", { setpoint := some 16 }⟩ := by
  intro acts colder evening
  obtain ⟨den, hstarts, -, htest⟩ := Zone.exists_den
    (fun den =>
      ((ofZone den).after acts).scheduler.current? "den" == some .day &&
      (((ofZone den).zones.get? "den").any fun z => !z.settings.isOnHold) &&
      (((ofZone den).after acts).zones.get? "den").any fun z => !z.settings.isOnHold)
    (by decide +kernel)
  simp only [Bool.and_eq_true, Option.any_eq_true, beq_iff_eq, Bool.not_eq_true'] at htest
  obtain ⟨⟨hcurrent, z₀, hz₀, hoff₀⟩, z, hz, hoff⟩ := htest
  have hnever : (ofZone den).NeverOnHold "den" acts := by
    refine neverOnHold_cons_iff.mpr ⟨fun z₁ hz₁ => ?_, neverOnHold_nil_iff.mpr fun z₁ hz₁ => ?_⟩
    · rw [hz₀] at hz₁
      cases hz₁
      exact hoff₀
    · have hz₁' : ((ofZone den).after acts).zones.get? "den" = some z₁ := hz₁
      rw [hz] at hz₁'
      cases hz₁'
      exact hoff
  have hfound : bestMatch? colder evening = some (.night, { setpoint := some 16 }) := by
    have heffect : Period.night.isInEffect evening = true := by decide +kernel
    simp [bestMatch?, colder, heffect]
  have hcalls : ∀ zone c, ScheduleAct.call zone c ∈ acts → c.isPeriod = false := by simp [acts]
  have hfresh : (Table.ofList [("den", colder)]).get? "den" = some colder := rfl
  obtain ⟨z', given, hz', hperiod, hother, -⟩ :=
    hstarts.period_after_update hcalls hnever hz hfresh hfound
  have hgiven : given = { setpoint := some 16 } := hother (by rw [hcurrent]; decide)
  exact ⟨ofZone den, z', hstarts, hnever, hcurrent, hfound, hz', hgiven ▸ hperiod⟩

/-- A den that is in the day when a warmer day is fetched remembers the day with the settings of
before. -/
theorem day_of_older_fetch :
    let fetch : ScheduleAct Rat :=
      .round (.update (.ofEpoch (9 * 3600) 0) [("den", Schedule.dayAndNight)])
    let warmer : Schedule Rat :=
      [(.day, { setpoint := some 25 }), (.night, { setpoint := some 18 })]
    let later : Instant := .ofEpoch (10 * 3600) 0
    ∃ (s : ScheduledZones Rat) (z z' : Zone Rat) (q : PeriodSettings Rat), s.Starts ∧
      s.zones.get? "den" = some z ∧
      s.NeverOnHold "den" [fetch, .round (.update later [("den", warmer)])] ∧
      (∀ e ∈ Schedule.dayAndNight ++ warmer, z.Accepts e.2) ∧
      bestMatch? warmer later = some (.day, { setpoint := some 25 }) ∧
      ((s.after [fetch]).update later (Table.ofList [("den", warmer)])).1.zones.get? "den" =
        some z' ∧
      z'.period = some q ∧ q.period = "day" ∧ q.settings.setpoint = some 24 := by
  intro fetch warmer later
  obtain ⟨den, hstarts, -, htest⟩ := Zone.exists_den
    (fun den =>
      let first := (ofZone den).step fetch
      let second := first.step (.round (.update later [("den", warmer)]))
      den.name == "den" && !den.settings.isOnHold && den.thermostat.range.contains 24 &&
      den.thermostat.range.contains 18 && den.thermostat.range.contains 25 &&
      ((first.zones.get? "den").any fun z => !z.settings.isOnHold) &&
      (second.zones.get? "den").any fun z => !z.settings.isOnHold &&
        z.period.any fun q => q.period == "day" && q.settings.setpoint == some 24)
    (by decide +kernel)
  simp only [Bool.and_eq_true, Option.any_eq_true, beq_iff_eq, Bool.not_eq_true'] at htest
  obtain ⟨⟨⟨⟨⟨⟨hname, hoff⟩, h24⟩, h18⟩, h25⟩, z₁, hz₁, hoff₁⟩, z₂, hz₂, hoff₂, q, hq, hday,
    hsetpoint⟩ := htest
  have hz : (ofZone den).zones.get? "den" = some den := by simp [ofZone, Table.get?_cons, hname]
  have hnever : (ofZone den).NeverOnHold "den"
      [fetch, .round (.update later [("den", warmer)])] := by
    simp only [neverOnHold_cons_iff, neverOnHold_nil_iff, hz, hz₁, hz₂, Option.some.injEq,
      forall_eq', hoff, hoff₁, hoff₂, and_self]
  have hu : ∀ e ∈ Schedule.dayAndNight ++ warmer, den.Accepts e.2 := by
    simp only [Schedule.dayAndNight, warmer, List.cons_append, List.nil_append,
      List.forall_mem_cons]
    exact ⟨Zone.accepts_setpoint h24, Zone.accepts_setpoint h18, Zone.accepts_setpoint h25,
      Zone.accepts_setpoint h18, fun _ he => absurd he List.not_mem_nil⟩
  have hfound : bestMatch? warmer later = some (.day, { setpoint := some 25 }) := by
    have hday : Period.day.isInEffect later = true := by decide +kernel
    have hnight : Period.night.isInEffect later = false := by decide +kernel
    simp [bestMatch?, warmer, hday, hnight]
  exact ⟨ofZone den, den, z₂, q, hstarts, hz, hnever, hu, hfound, hz₂, hq, hday, hsetpoint⟩

end ScheduledZones

end HomeClimate
