import HomeClimate.Proofs.Table
import HomeClimate.Proofs.Zone.Changes
import HomeClimate.Schedule.Loop

/-!
# What the scheduler does to zones

Whatever the schedules say, the scheduler does one thing to a zone: it sets its
period.  So it keeps the names of the zones, and it keeps what is known of each zone
by its name as long as no change of settings can take that away.
-/

namespace HomeClimate

variable {ν : Type} [Scalar ν]

namespace Scheduler

/-! ## One zone -/

theorem adjusts_hold (s : Scheduler ν) (name : String) (z : Zone ν) (p : Period)
    (wanted : ZoneSettings ν) : z.Adjusts (s.hold name z p wanted).2 := by
  rw [hold]
  split
  · exact .refl z
  · have h := z.adjusts_setPeriod (some ⟨p.name, wanted⟩)
    cases hset : z.setPeriod (some ⟨p.name, wanted⟩) with
    | mk z' answer =>
        rw [hset] at h
        cases answer with
        | error f => exact h
        | ok _ => exact h

theorem adjusts_enter (s : Scheduler ν) (name : String) (z : Zone ν) (p : Period)
    (wanted : ZoneSettings ν) : z.Adjusts (s.enter name z p wanted).2.1 := by
  have h := z.adjusts_setPeriod (some ⟨p.name, wanted⟩)
  unfold enter
  cases hset : z.setPeriod (some ⟨p.name, wanted⟩) with
  | mk z' answer =>
      rw [hset] at h
      cases answer with
      | error f => exact h
      | ok _ => exact h

theorem adjusts_apply (s : Scheduler ν) (z : Zone ν) (schedule : Schedule ν) (now : Instant) :
    z.Adjusts (s.apply z schedule now).2.1 := by
  unfold apply
  dsimp only
  split
  · exact .refl z
  · cases bestMatch? schedule now with
    | none => exact z.adjusts_setPeriod none
    | some found =>
        obtain ⟨p, wanted⟩ := found
        dsimp only
        split
        · exact s.adjusts_hold z.name z p wanted
        · exact s.adjusts_enter z.name z p wanted

/-! ## All zones -/

section Zones

variable {P : String → Zone ν → Prop}

theorem forall_applyNamed (hP : ∀ name, Zone.Adjustable (P name)) (s : Scheduler ν)
    {zones : Zones ν} (h : ∀ e ∈ zones, P e.1 e.2) (name : String) (schedule : Schedule ν)
    (now : Instant) : ∀ e ∈ (s.applyNamed zones name schedule now).2.1, P e.1 e.2 := by
  rw [applyNamed]
  cases hz : zones.get? name with
  | none => exact h
  | some z =>
      dsimp only
      have hadjusts := s.adjusts_apply z schedule now
      refine Table.forall_modify (fun e he _ => h e he) fun _ _ => ?_
      exact hP name z _ hadjusts (h _ (Table.mem_of_get? hz))

theorem keys_applyNamed (s : Scheduler ν) (zones : Zones ν) (name : String)
    (schedule : Schedule ν) (now : Instant) :
    (s.applyNamed zones name schedule now).2.1.keys = zones.keys := by
  rw [applyNamed]
  cases zones.get? name with
  | none => rfl
  | some z =>
      dsimp only
      exact Table.keys_modify zones name _

theorem forall_update (hP : ∀ name, Zone.Adjustable (P name)) (s : Scheduler ν)
    {zones : Zones ν} (h : ∀ e ∈ zones, P e.1 e.2) (now : Instant)
    (schedules : Table String (Schedule ν)) :
    ∀ e ∈ (s.update zones now schedules).2.1, P e.1 e.2 := by
  induction schedules generalizing s zones with
  | nil => exact h
  | cons entry rest ih => exact ih _ (forall_applyNamed hP s h entry.1 entry.2 now)

theorem keys_update (s : Scheduler ν) (zones : Zones ν) (now : Instant)
    (schedules : Table String (Schedule ν)) :
    (s.update zones now schedules).2.1.keys = zones.keys := by
  induction schedules generalizing s zones with
  | nil => rfl
  | cons entry rest ih => exact (ih _ _).trans (keys_applyNamed s zones entry.1 entry.2 now)

theorem forall_tick (hP : ∀ name, Zone.Adjustable (P name)) (s : Scheduler ν)
    {zones : Zones ν} (h : ∀ e ∈ zones, P e.1 e.2) (now : Instant) :
    ∀ e ∈ (s.tick zones now).2.1, P e.1 e.2 := by
  rw [tick]
  generalize s.schedules = schedules
  induction schedules generalizing s zones with
  | nil => exact h
  | cons entry rest ih => exact ih _ (forall_applyNamed hP s h entry.1 entry.2 now)

theorem keys_tick (s : Scheduler ν) (zones : Zones ν) (now : Instant) :
    (s.tick zones now).2.1.keys = zones.keys := by
  rw [tick]
  generalize s.schedules = schedules
  induction schedules generalizing s zones with
  | nil => rfl
  | cons entry rest ih => exact (ih _ _).trans (keys_applyNamed s zones entry.1 entry.2 now)

end Zones

end Scheduler

/-! ## With timers -/

namespace SchedulerLoop

variable {P : String → Zone ν → Prop}

theorem forall_poll (hP : ∀ name, Zone.Adjustable (P name)) (l : SchedulerLoop ν)
    {zones : Zones ν} (h : ∀ e ∈ zones, P e.1 e.2) (elapsed : Span) (now : Instant) :
    ∀ e ∈ (l.poll zones elapsed now).2.1, P e.1 e.2 := by
  unfold poll
  dsimp only
  split
  · exact h
  · exact Scheduler.forall_update hP l.scheduler h now _

theorem forall_act (hP : ∀ name, Zone.Adjustable (P name)) (l : SchedulerLoop ν)
    {zones : Zones ν} (h : ∀ e ∈ zones, P e.1 e.2) (elapsed : Span) (now : Instant) :
    ∀ e ∈ (l.act zones elapsed now).2.1, P e.1 e.2 := by
  unfold act
  by_cases hpoll : l.nextPoll ≤ elapsed
  · rw [if_pos hpoll]
    have hfetched := l.forall_poll hP h elapsed now
    dsimp only
    split
    · exact Scheduler.forall_tick hP _ hfetched now
    · exact hfetched
  · rw [if_neg hpoll]
    dsimp only
    split
    · exact Scheduler.forall_tick hP _ h now
    · exact h

end SchedulerLoop

end HomeClimate
