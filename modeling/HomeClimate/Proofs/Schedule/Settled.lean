import HomeClimate.Proofs.Schedule.Track

/-!
# A tick right after a tick

A tick leaves a zone in the period that the clock says, or as near to it as the zone lets it
come.  A second tick at the same time finds one of three things (`Track.Settled`).

* There: the current period is the one in effect, or there is none.
* Remembered: the zone is on hold and remembers the period in effect.
* Refused: the zone did not take the settings of the period in effect, so there is no current
  period.

There is nothing to do in the first two.  In the third everything is tried again, and refused
again, so that all is left as it was, but the scheduler reports that the zone has no period
each time.  So the second tick changes nothing at all, and it is silent unless some zone
refuses its period (`Starts.tick_tick`).  A den that is to have 100 degrees is such a zone
(`refused_again`).
-/

namespace HomeClimate

variable {ν : Type} [Scalar ν]

/-! ## One zone -/

namespace Track

/-- The period in effect is not the current one, and the zone, which is not on hold, does not take
its settings. -/
def Refuses (t : Track ν) (found : Option (Period × ZoneSettings ν)) : Prop :=
  ∃ p wanted, found = some (p, wanted) ∧ t.current ≠ some p ∧
    t.zone.settings.isOnHold = false ∧ ¬ t.zone.Accepts wanted

/-- What a schedule that was applied to a track leaves. -/
inductive Settled (t : Track ν) : Option (Period × ZoneSettings ν) → Prop where
  | there {found : Option (Period × ZoneSettings ν)} :
    t.current = found.map Prod.fst →
    Settled t found
  | remembered {p : Period} {wanted : ZoneSettings ν} :
    t.current ≠ some p →
    t.zone.settings.isOnHold = true →
    t.held = some p →
    Settled t (some (p, wanted))
  | refused {p : Period} {wanted : ZoneSettings ν} :
    t.current = none →
    t.held = none →
    t.zone.settings.isOnHold = false →
    ¬ t.zone.Accepts wanted →
    t.zone.period = some ⟨p.name, wanted⟩ →
    Settled t (some (p, wanted))

theorem Applied.settled {t t' : Track ν} {found : Option (Period × ZoneSettings ν)}
    {events : List (Option (Period × ZoneSettings ν))} (h : t.Applied found t' events) :
    t'.Settled found := by
  cases h with
  | there hthere => exact .there hthere
  | cleared => exact .there rfl
  | remembered hcurrent hold hheld => exact .remembered hcurrent hold hheld
  | recorded hcurrent hold => exact .remembered hcurrent hold rfl
  | entered => exact .there rfl
  | rejected _ hold hu =>
      exact .refused rfl rfl hold (fun ha => hu ⟨ha.setpoint, ha.economizer⟩) rfl

end Track

namespace Scheduler

/-- A zone refuses again what it has refused, and nothing changes. -/
theorem enter_of_refused {s : Scheduler ν} {z : Zone ν} (hz : z.IsConsistent) {p : Period}
    {wanted : ZoneSettings ν} (hcurrent : s.current.get? z.name = none)
    (hheld : s.held.get? z.name = none) (hold : z.settings.isOnHold = false)
    (hu : ¬ z.Accepts wanted) (hperiod : z.period = some ⟨p.name, wanted⟩) :
    s.enter z.name z p wanted = (s, z, ⟨z.name, none⟩) := by
  rcases Zone.setPeriod_cases hz ⟨p.name, wanted⟩ with ⟨hon, -⟩ | ⟨-, -, e, hset⟩ | ⟨-, ha, -⟩
  · rw [hold] at hon
    cases hon
  · rw [← hperiod] at hset
    rw [enter, ← hperiod, hset]
    simp only [Table.erase_of_get?_eq_none hcurrent, Table.erase_of_get?_eq_none hheld]
  · exact absurd ha hu

/-- A schedule that is applied to a settled zone changes nothing, and what the zone refuses is
reported. -/
theorem apply_of_settled {s : Scheduler ν} {z : Zone ν} (hz : z.IsConsistent)
    {schedule : Schedule ν} {now : Instant}
    (h : (s.track z.name z).Settled (bestMatch? schedule now)) :
    (s.apply z schedule now = (s, z, none) ∧
        ¬ (s.track z.name z).Refuses (bestMatch? schedule now)) ∨
      (s.apply z schedule now = (s, z, some ⟨z.name, none⟩) ∧
        (s.track z.name z).Refuses (bestMatch? schedule now)) := by
  generalize hfound : bestMatch? schedule now = found at h
  cases h with
  | there hthere =>
      have hthere' : s.current.get? z.name = found.map Prod.fst := hthere
      refine .inl ⟨by simp [apply, hfound, hthere'], ?_⟩
      rintro ⟨p, wanted, rfl, hcurrent, -⟩
      exact hcurrent hthere
  | @remembered p wanted hcurrent hold hheld =>
      have hcurrent' : s.current.get? z.name ≠ some p := hcurrent
      have hold' : z.settings.isOnHold = true := hold
      have hheld' : s.held.get? z.name = some p := hheld
      refine .inl ⟨by simp [apply, Scheduler.hold, hfound, hcurrent', hold', hheld'], ?_⟩
      rintro ⟨_, _, -, -, hoff, -⟩
      rw [hold] at hoff
      cases hoff
  | @refused p wanted hcurrent hheld hold hu hperiod =>
      have hcurrent' : s.current.get? z.name = none := hcurrent
      have hold' : z.settings.isOnHold = false := hold
      have henter := enter_of_refused hz hcurrent' hheld hold' hu hperiod
      refine .inr ⟨by simp [apply, hfound, hcurrent', hold', henter], p, wanted, rfl, ?_, hold, hu⟩
      rw [hcurrent]
      exact (Option.some_ne_none p).symm

/-! ## All zones -/

/-- A schedule that is applied under a name to a settled zone changes nothing. -/
theorem applyNamed_of_settled {s : Scheduler ν} {zones : Zones ν} (h : zones.IsSound)
    {name : String} (hsingle : Table.IsSingle zones name) {schedule : Schedule ν} {now : Instant}
    (hsettled : ∀ t, s.track? zones name = some t → t.Settled (bestMatch? schedule now)) :
    ∃ events, s.applyNamed zones name schedule now = (s, zones, events) ∧
      ∀ e, e ∈ events ↔ e = ⟨name, none⟩ ∧
        ∃ t, s.track? zones name = some t ∧ t.Refuses (bestMatch? schedule now) := by
  cases hz : zones.get? name with
  | none => exact ⟨[], by simp [applyNamed, hz], by simp [track?, hz]⟩
  | some z =>
      obtain ⟨hconsistent, rfl⟩ := h.of_get? hz
      have htrack : s.track? zones z.name = some (s.track z.name z) := by simp [track?, hz]
      have hsame := Table.modify_of_get? hsingle hz
      rcases apply_of_settled hconsistent (hsettled _ htrack) with
        ⟨happly, hnot⟩ | ⟨happly, hrefuses⟩
      · exact ⟨[], by simp [applyNamed, hz, happly, hsame], by simp [htrack, hnot]⟩
      · exact ⟨[⟨z.name, none⟩], by simp [applyNamed, hz, happly, hsame],
          by simp [htrack, hrefuses]⟩

/-- Schedules that are applied to settled zones change nothing, and what a zone refuses is
reported. -/
theorem applyAll_of_settled {s : Scheduler ν} {zones : Zones ν} (h : zones.IsSound)
    {now : Instant} {schedules : Table String (Schedule ν)}
    (hsingle : ∀ name ∈ schedules.keys, Table.IsSingle zones name)
    (hsettled : ∀ name schedule, (name, schedule) ∈ schedules →
      ∀ t, s.track? zones name = some t → t.Settled (bestMatch? schedule now)) :
    ∃ events, s.applyAll zones now schedules = (s, zones, events) ∧
      ∀ e, e ∈ events ↔ e.period = none ∧ ∃ schedule, (e.zone, schedule) ∈ schedules ∧
        ∃ t, s.track? zones e.zone = some t ∧ t.Refuses (bestMatch? schedule now) := by
  induction schedules with
  | nil => exact ⟨[], rfl, by simp⟩
  | cons entry rest ih =>
      obtain ⟨name, schedule⟩ := entry
      obtain ⟨hfirst, hothers⟩ := List.forall_mem_cons.mp hsingle
      obtain ⟨events, happly, hevents⟩ := applyNamed_of_settled h hfirst
        (hsettled name schedule List.mem_cons_self)
      obtain ⟨more, hrest, hmore⟩ := ih hothers fun other schedule hmem =>
        hsettled other schedule (List.mem_cons_of_mem _ hmem)
      refine ⟨events ++ more, by simp [applyAll, happly, hrest], fun e => ?_⟩
      rw [List.mem_append, hevents, hmore]
      constructor
      · rintro (⟨rfl, hrefuses⟩ | ⟨hnone, other, hmem, hrefuses⟩)
        · exact ⟨rfl, schedule, List.mem_cons_self, hrefuses⟩
        · exact ⟨hnone, other, List.mem_cons_of_mem _ hmem, hrefuses⟩
      · rintro ⟨hnone, other, hmem, hrefuses⟩
        obtain ⟨zone, period⟩ := e
        rcases List.mem_cons.mp hmem with heq | hmem
        · cases heq
          exact .inl ⟨congrArg _ hnone, hrefuses⟩
        · exact .inr ⟨hnone, other, hmem, hrefuses⟩

theorem isSingle_applyNamed (s : Scheduler ν) {zones : Zones ν} {name other : String}
    (h : name ≠ other → Table.IsSingle zones other) (schedule : Schedule ν) (now : Instant) :
    Table.IsSingle (s.applyNamed zones name schedule now).2.1 other := by
  rw [applyNamed]
  cases hz : zones.get? name with
  | none =>
      by_cases hname : name = other
      · subst hname
        intro v v' hv
        obtain ⟨z, hz'⟩ := Table.exists_get? (List.mem_map_of_mem (f := Prod.fst) hv)
        rw [hz] at hz'
        cases hz'
      · exact h hname
  | some z => exact Table.isSingle_modify _ h

/-- A zone whose schedule was applied stands under its name alone. -/
theorem isSingle_applyAll (s : Scheduler ν) {zones : Zones ν} (now : Instant)
    {schedules : Table String (Schedule ν)} {name : String}
    (h : name ∉ schedules.keys → Table.IsSingle zones name) :
    Table.IsSingle (s.applyAll zones now schedules).2.1 name := by
  induction schedules generalizing s zones with
  | nil => exact h (by simp [Table.keys])
  | cons entry rest ih =>
      refine ih (s.applyNamed zones entry.1 entry.2 now).1 fun hrest => ?_
      refine s.isSingle_applyNamed (fun hne => h fun hmem => ?_) entry.2 now
      rcases List.mem_cons.mp hmem with heq | hmem
      · exact hne heq.symm
      · exact hrest hmem

end Scheduler

namespace ScheduledZones

/-- A zone refuses the period that is in effect in the schedule that the scheduler has for it. -/
def Refuses (s : ScheduledZones ν) (name : String) (now : Instant) : Prop :=
  ∃ schedule t, s.scheduler.schedules.get? name = some schedule ∧ s.track? name = some t ∧
    t.Refuses (bestMatch? schedule now)

/-- What a tick leaves is settled: a second tick at the same time changes nothing and reports the
zones that refuse their period. -/
theorem IsSound.tick_of_tick {s : ScheduledZones ν} (h : s.IsSound) (now : Instant) :
    let first := (s.tick now).1
    (first.tick now).1 = first ∧
      ∀ e, e ∈ (first.tick now).2 ↔ e.period = none ∧ first.Refuses e.zone now := by
  intro first
  have hsound : first.IsSound := (h.passes_round (.tick now) "").2
  have hkeys := hsound.schedules.nodup
  have hsame : first.scheduler.schedules = s.scheduler.schedules := s.schedules_tick now
  have hsingle : ∀ name ∈ first.scheduler.schedules.keys, Table.IsSingle first.zones name := by
    intro name hname
    rw [hsame] at hname
    exact s.scheduler.isSingle_applyAll now (absurd hname)
  have hsettled : ∀ name schedule, (name, schedule) ∈ first.scheduler.schedules →
      ∀ t, first.track? name = some t → t.Settled (bestMatch? schedule now) := by
    intro name schedule hmem t ht
    obtain ⟨hpasses, -⟩ := h.passes_round (.tick now) name
    have hschedule : (ScheduleRound.tick now).schedule? s.scheduler name = some schedule := by
      rw [ScheduleRound.schedule?, ← hsame]
      exact Table.get?_of_mem hkeys hmem
    have hnext : (s.round (.tick now)).1.track? name = some t := ht
    rw [hschedule, hnext] at hpasses
    generalize s.track? name = before at hpasses
    cases hpasses with
    | applied happlied => exact happlied.settled
  obtain ⟨events, happly, hevents⟩ := Scheduler.applyAll_of_settled hsound.zones hsingle hsettled
  have htick : first.tick now = (first, events) := by
    simp only [tick, Scheduler.tick, happly]
  rw [htick]
  refine ⟨rfl, fun e => (hevents e).trans (and_congr_right fun _ => ?_)⟩
  constructor
  · rintro ⟨schedule, hmem, t, ht, hrefuses⟩
    exact ⟨schedule, t, Table.get?_of_mem hkeys hmem, ht, hrefuses⟩
  · rintro ⟨schedule, t, hget, ht, hrefuses⟩
    exact ⟨schedule, Table.mem_of_get? hget, t, ht, hrefuses⟩

/-- After any run, a second tick at the same time changes nothing.  It reports the zones that refuse
their period, and is silent if there are none. -/
theorem Starts.tick_tick {s : ScheduledZones ν} (h : s.Starts) (acts : List (ScheduleAct ν))
    (now : Instant) :
    let first := ((s.after acts).tick now).1
    (first.tick now).1 = first ∧
      (∀ e, e ∈ (first.tick now).2 ↔ e.period = none ∧ first.Refuses e.zone now) ∧
      ((first.tick now).2 = [] ↔ ∀ name, ¬ first.Refuses name now) := by
  intro first
  obtain ⟨hsame, hevents⟩ := (h.isSound.after acts).tick_of_tick now
  refine ⟨hsame, hevents, ?_⟩
  rw [List.eq_nil_iff_forall_not_mem]
  constructor
  · intro hnone name hrefuses
    exact hnone ⟨name, none⟩ ((hevents _).mpr ⟨rfl, hrefuses⟩)
  · intro hnone e he
    exact hnone e.zone ((hevents e).mp he).2

/-- A den that entered the day enters the night with the first tick of the evening, and the second
one finds it there. -/
theorem tick_tick_in_den :
    let morning : ScheduleAct Rat :=
      .round (.update (.ofEpoch (9 * 3600) 0) [("den", Schedule.dayAndNight)])
    let evening : Instant := .ofEpoch (23 * 3600) 0
    ∃ s first : ScheduledZones Rat, s.Starts ∧ first = ((s.after [morning]).tick evening).1 ∧
      first.scheduler.current? "den" = some .night ∧ first.tick evening = (first, []) ∧
      ∀ name, ¬ first.Refuses name evening := by
  intro morning evening
  obtain ⟨den, hstarts, -, htest⟩ := Zone.exists_den
    (fun den =>
      let first := (((ofZone den).after [morning]).tick evening).1
      first.scheduler.current? "den" == some .night && (first.tick evening).2.isEmpty)
    (by decide +kernel)
  simp only [Bool.and_eq_true, beq_iff_eq, List.isEmpty_iff] at htest
  obtain ⟨hnight, hsilent⟩ := htest
  obtain ⟨hsame, -, hiff⟩ := hstarts.tick_tick [morning] evening
  exact ⟨ofZone den, _, hstarts, rfl, hnight, Prod.ext hsame hsilent, hiff.mp hsilent⟩

/-- A den that is to have 100 degrees by day refuses that in every tick, and every tick reports that
it has no period. -/
theorem refused_again :
    let schedule : Schedule Rat := [(.day, { setpoint := some 100 })]
    let morning : Instant := .ofEpoch (9 * 3600) 0
    ∃ s first : ScheduledZones Rat, s.Starts ∧
      first = ((s.after [.round (.update morning [("den", schedule)])]).tick morning).1 ∧
      ⟨"den", none⟩ ∈ (first.tick morning).2 := by
  intro schedule morning
  obtain ⟨den, hstarts, -, htest⟩ := Zone.exists_den
    (fun den =>
      let first :=
        (((ofZone den).after [.round (.update morning [("den", schedule)])]).tick morning).1
      (first.tick morning).2.any fun e => e.zone == "den" && e.period.isNone)
    (by decide +kernel)
  simp only [List.any_eq_true, Bool.and_eq_true, beq_iff_eq, Option.isNone_iff_eq_none] at htest
  obtain ⟨⟨zone, period⟩, hmem, rfl, rfl⟩ := htest
  exact ⟨ofZone den, _, hstarts, rfl, hmem⟩

end ScheduledZones

end HomeClimate
