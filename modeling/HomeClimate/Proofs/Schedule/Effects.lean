import HomeClimate.Proofs.Schedule.Track

/-!
# Events and effects

A round of the scheduler changes the settings of a zone if and only if it says so.  An
event with a period means that the settings of the period were merged into those of the
zone and that the zone remembers the period.  Without such an event the settings are
what they were, although the zone may remember another period: one that was cleared,
rejected, or recorded on hold.

A zone on hold keeps its settings in every round.

The schedules may be any, right for the zone or not.  That a rejected period leaves no
trace in the settings needs that the zone is consistent, which every run keeps.
-/

namespace HomeClimate

variable {ν : Type} [Scalar ν]

namespace Track

/-- A period is reported if it is found, is not the current one, and the zone takes it. -/
theorem Applied.reported_iff {t t' : Track ν} {found : Option (Period × ZoneSettings ν)}
    {events : List (Option (Period × ZoneSettings ν))} (h : t.Applied found t' events)
    (p : Period) (wanted : ZoneSettings ν) :
    some (p, wanted) ∈ events ↔ found = some (p, wanted) ∧ t.current ≠ some p ∧
      t.zone.settings.isOnHold = false ∧ t.zone.Accepts wanted := by
  cases h with
  | there hthere =>
      simp only [List.not_mem_nil, false_iff]
      rintro ⟨rfl, hcurrent, -⟩
      exact hcurrent hthere
  | cleared => simp
  | remembered _ hold => simp [hold]
  | recorded _ hold => simp [hold]
  | entered hcurrent hold hu =>
      simp only [List.mem_singleton, Option.some.injEq, Prod.mk.injEq]
      constructor
      · rintro ⟨rfl, rfl⟩
        exact ⟨⟨rfl, rfl⟩, hcurrent, hold, hu⟩
      · rintro ⟨⟨rfl, rfl⟩, -⟩
        exact ⟨rfl, rfl⟩
  | rejected _ _ hu =>
      simp only [List.mem_singleton, reduceCtorEq, false_iff, Option.some.injEq, Prod.mk.injEq]
      rintro ⟨⟨-, rfl⟩, -, -, ha⟩
      exact hu ha

/-- A period that is reported was applied. -/
theorem Applied.of_reported {t t' : Track ν} {found : Option (Period × ZoneSettings ν)}
    {events : List (Option (Period × ZoneSettings ν))} (h : t.Applied found t' events)
    {p : Period} {wanted : ZoneSettings ν} (hmem : some (p, wanted) ∈ events) :
    t'.zone.settings = t.zone.settings.merge wanted ∧
      t'.zone.period = some ⟨p.name, wanted⟩ := by
  cases h with
  | there => simp at hmem
  | cleared => simp at hmem
  | remembered => simp at hmem
  | recorded => simp at hmem
  | entered _ _ _ hmerged hperiod =>
      simp only [List.mem_singleton, Option.some.injEq, Prod.mk.injEq] at hmem
      obtain ⟨rfl, rfl⟩ := hmem
      exact ⟨hmerged, hperiod⟩
  | rejected => simp at hmem

/-- Where no period is reported, the settings stay. -/
theorem Applied.of_not_reported {t t' : Track ν} {found : Option (Period × ZoneSettings ν)}
    {events : List (Option (Period × ZoneSettings ν))} (h : t.Applied found t' events)
    (hnone : ∀ p wanted, some (p, wanted) ∉ events) :
    t'.zone.settings = t.zone.settings := by
  cases h with
  | there => rfl
  | cleared => rfl
  | remembered => rfl
  | recorded => rfl
  | entered => exact absurd (List.mem_singleton.mpr rfl) (hnone _ _)
  | rejected => rfl

end Track

namespace ScheduledZones

/-- After any run, a round changes the settings of a zone as its events say, and not otherwise.  A
period is reported exactly if it is the one in effect, is not the current one, and the zone is not
on hold and takes it. -/
theorem Starts.round_matches_events {s : ScheduledZones ν} (h : s.Starts)
    (acts : List (ScheduleAct ν)) (r : ScheduleRound ν) {name : String} {z : Zone ν}
    (hz : (s.after acts).zones.get? name = some z) :
    let events := ((s.after acts).round r).2
    ∃ z', ((s.after acts).round r).1.zones.get? name = some z' ∧
      (∀ p wanted, ⟨name, some (p, wanted)⟩ ∈ events →
        z'.settings = z.settings.merge wanted ∧ z'.period = some ⟨p.name, wanted⟩) ∧
      ((∀ p wanted, ⟨name, some (p, wanted)⟩ ∉ events) → z'.settings = z.settings) ∧
      (z.settings.isOnHold = true →
        z'.settings = z.settings ∧ ∀ p wanted, ⟨name, some (p, wanted)⟩ ∉ events) ∧
      ∀ p wanted, ⟨name, some (p, wanted)⟩ ∈ events ↔
        ∃ schedule, r.schedule? (s.after acts).scheduler name = some schedule ∧
          bestMatch? schedule r.now = some (p, wanted) ∧
          (s.after acts).scheduler.current? name ≠ some p ∧
          z.settings.isOnHold = false ∧ z.Accepts wanted := by
  intro events
  obtain ⟨hpasses, -⟩ := (h.isSound.after acts).passes_round r name
  have htrack : (s.after acts).track? name = some ((s.after acts).scheduler.track name z) :=
    Scheduler.track?_eq_some_iff.mpr ⟨z, hz, rfl⟩
  simp only [← mem_eventsOf]
  rw [htrack] at hpasses
  cases hs : r.schedule? (s.after acts).scheduler name with
  | none =>
      rw [hs] at hpasses
      obtain ⟨hsame, hnone⟩ := hpasses.of_none
      obtain ⟨hz', -, -⟩ := track?_eq_some hsame
      refine ⟨z, hz', ?_⟩
      simp [events, hnone]
  | some schedule =>
      rw [hs] at hpasses
      generalize hnext : ((s.after acts).round r).1.track? name = next at hpasses
      cases hpasses with
      | applied happlied =>
          obtain ⟨hz', -, -⟩ := track?_eq_some hnext
          have hiff := happlied.reported_iff
          refine ⟨_, hz', fun p wanted hmem => happlied.of_reported hmem,
            happlied.of_not_reported, fun hold => ?_, fun p wanted => ?_⟩
          · have hnone : ∀ p wanted, some (p, wanted) ∉ eventsOf name events := by
              intro p wanted hmem
              obtain ⟨-, -, hoff, -⟩ := (hiff p wanted).mp hmem
              exact absurd (hold.symm.trans hoff) (by decide)
            exact ⟨happlied.of_not_reported hnone, hnone⟩
          · simpa [Scheduler.track, Scheduler.current?] using hiff p wanted

/-- A den that entered the day in the morning enters the night in the evening. -/
theorem round_matches_events_in_den :
    let schedules : List (String × Schedule Rat) := [("den", Schedule.dayAndNight)]
    let morning : ScheduleAct Rat := .round (.update (.ofEpoch (9 * 3600) 0) schedules)
    let evening : ScheduleRound Rat := .update (.ofEpoch (23 * 3600) 0) schedules
    ∃ (s : ScheduledZones Rat) (z z' : Zone Rat), s.Starts ∧
      (s.after [morning]).zones.get? "den" = some z ∧ z.period.map PeriodSettings.period = some "day" ∧
      ((s.after [morning]).round evening).1.zones.get? "den" = some z' ∧
      ⟨"den", some (.night, { setpoint := some 18 })⟩ ∈ ((s.after [morning]).round evening).2 ∧
      z'.settings = z.settings.merge { setpoint := some 18 } ∧
      z'.period = some ⟨"night", { setpoint := some 18 }⟩ := by
  intro schedules morning evening
  obtain ⟨den, hstarts, -, htest⟩ := Zone.exists_den
    (fun den =>
      ((ofZone den).after [morning]).scheduler.current? "den" == some .day &&
      (((ofZone den).after [morning]).zones.get? "den").any fun z =>
        z.thermostat.range.contains 18 && !z.settings.isOnHold &&
          z.period.map PeriodSettings.period == some "day")
    (by decide +kernel)
  simp only [Bool.and_eq_true, Option.any_eq_true, beq_iff_eq, Bool.not_eq_true'] at htest
  obtain ⟨hcurrent, z, hz, ⟨hrange, hoff⟩, hday⟩ := htest
  obtain ⟨z', hz', happlied, -, -, hreported⟩ := hstarts.round_matches_events [morning] evening hz
  have haccepts : z.Accepts { setpoint := some 18 } := by
    refine ⟨fun s hs => ?_, fun s hs => nomatch hs⟩
    cases hs
    exact ⟨hrange, rfl⟩
  have hfound : bestMatch? Schedule.dayAndNight evening.now =
      some (.night, { setpoint := some 18 }) := by
    have heffect : Period.night.isInEffect evening.now = true := by decide +kernel
    simp [bestMatch?, Schedule.dayAndNight, heffect]
  have hnight : ⟨"den", some (.night, { setpoint := some 18 })⟩ ∈
      (((ofZone den).after [morning]).round evening).2 := by
    refine (hreported .night { setpoint := some 18 }).mpr
      ⟨Schedule.dayAndNight, rfl, hfound, ?_, hoff, haccepts⟩
    rw [hcurrent]
    decide
  obtain ⟨hmerged, hperiod⟩ := happlied _ _ hnight
  exact ⟨ofZone den, z, z', hstarts, hz, hday, hz', hnight, hmerged, hperiod⟩

end ScheduledZones

end HomeClimate
