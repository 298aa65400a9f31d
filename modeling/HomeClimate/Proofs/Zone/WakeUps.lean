import HomeClimate.Proofs.Zone.Rendering
import Mathlib.Logic.Relation

/-!
# Changes that are shown

A zone that runs takes a sample or its wake-up, makes a status of it, and gives the
status away.  Settings change at any time, also between the last two, so the status that
is made and not given yet is a part of the state here (`ZoneTask`).  Every change that
is taken stores the one wake-up there is, and only a look at the zone takes that away
again.  So there are two states: a look is still to come, or the last status was made
after the last change (`InLine`).  A status that is on its way counts as made.

A look before the first sample finds nothing to show.  Then there is no status that could
be out of date.
-/

namespace HomeClimate

variable {ν : Type} [Scalar ν]

/-! ## Changes -/

namespace Zone

/-- What a user's update does to what is shown: it stores the wake-up, or nothing has changed. -/
theorem setSettings_outcome (z : Zone ν) (update : ZoneSettings ν) :
    (z.setSettings update).1.wakeUp = true ∨
      ((z.setSettings update).1.settings = z.settings ∧
        (z.setSettings update).1.wakeUp = z.wakeUp) := by
  rw [setSettings]
  rcases z.apply_outcome update with ⟨f, hf, hkept⟩ | ⟨thermostat, economizer, -, heq⟩
  · cases ha : z.apply update with
    | mk z' answer =>
        rw [ha] at hf hkept
        cases hf
        exact .inr hkept
  · rw [heq]
    exact .inl rfl

/-- What a period does to what is shown: it stores the wake-up, or the settings have not changed. -/
theorem setPeriod_outcome (z : Zone ν) (period : Option (PeriodSettings ν)) :
    (z.setPeriod period).1.wakeUp = true ∨
      ((z.setPeriod period).1.settings = z.settings ∧
        (z.setPeriod period).1.wakeUp = z.wakeUp) := by
  cases period with
  | none => exact .inr ⟨rfl, rfl⟩
  | some p =>
      rw [setPeriod]
      dsimp only
      by_cases hold : z.settings.isOnHold = true
      · rw [if_pos hold]
        exact .inr ⟨rfl, rfl⟩
      · rw [if_neg hold]
        rcases apply_outcome { z with period := some p } p.settings
          with ⟨f, hf, hkept⟩ | ⟨thermostat, economizer, -, heq⟩
        · cases ha : apply { z with period := some p } p.settings with
          | mk z' answer =>
              rw [ha] at hf hkept
              cases hf
              exact .inr hkept
        · rw [heq]
          exact .inl rfl

end Zone

/-! ## The task -/

/-- A zone that runs, and the status that it has made and not given yet.  The statuses of its loop
are all that it gave so far. -/
structure ZoneTask (ν : Type) where
  loop : ZoneLoop ν
  held : Option (Signal (ZoneStatus ν))

namespace ZoneTask

/-- A zone that begins to run. -/
def start (zone : Zone ν) : ZoneTask ν := ⟨.start zone, none⟩

/-- The task with something done to the zone by others. -/
def modify (t : ZoneTask ν) (f : Zone ν → Zone ν) : ZoneTask ν :=
  { t with loop := { t.loop with zone := f t.loop.zone } }

/-- The task after it took one temperature and made its status. -/
def takeSample (t : ZoneTask ν) (now : Instant) : ZoneTask ν :=
  let (loop, held) := t.loop.answerSample now
  ⟨loop, held⟩

/-- The task after it took its wake-up and made its status. -/
def takeWakeUp (t : ZoneTask ν) : ZoneTask ν :=
  let (loop, held) := t.loop.answerWakeUp
  ⟨loop, held⟩

/-- The task after it gave what it had made. -/
def give (t : ZoneTask ν) : ZoneTask ν := ⟨t.loop.give t.held, none⟩

/-- The last status: the one that is on its way, or else the last one that was given. -/
def latest? (t : ZoneTask ν) : Option (Signal (ZoneStatus ν)) :=
  t.held.or t.loop.statuses.getLast?

/-- What can happen next.  The task takes nothing while a status is on its way; all the rest may
come at any time. -/
inductive Step : ZoneTask ν → ZoneTask ν → Prop where
  | arrive {t : ZoneTask ν} (sample : Signal ν) :
      Step t { t with loop := { t.loop with samples := t.loop.samples ++ [sample] } }
  | arriveOutside {t : ZoneTask ν} (reading : Signal ν) :
      Step t { t with loop := { t.loop with readings := t.loop.readings ++ [reading] } }
  | setSettings {t : ZoneTask ν} (update : ZoneSettings ν) :
      Step t (t.modify fun z => (z.setSettings update).1)
  | setPeriod {t : ZoneTask ν} (period : Option (PeriodSettings ν)) :
      Step t (t.modify fun z => (z.setPeriod period).1)
  | close {t : ZoneTask ν} :
      Step t (t.modify Zone.close)
  | takeReading {t : ZoneTask ν} (now : Instant) :
      Step t { t with loop := t.loop.takeReading now }
  | takeSample {t : ZoneTask ν} (now : Instant) :
      t.held = none →
      Step t (t.takeSample now)
  | takeWakeUp {t : ZoneTask ν} :
      t.held = none →
      Step t t.takeWakeUp
  | give {t : ZoneTask ν} :
      Step t t.give

/-! ## Keeping in line -/

/-- Unless a look is still to come, the last status has the settings of the zone.  Before the first
verdict there is no status. -/
structure InLine (t : ZoneTask ν) : Prop where
  settings : t.loop.zone.wakeUp = false → ∀ s shown, t.latest? = some s → s.value? = some shown →
    shown.settings = t.loop.zone.settings
  verdict : t.loop.zone.lastVerdict = none → t.latest? = none

omit [Scalar ν] in
theorem inLine_start (zone : Zone ν) : (start zone).InLine :=
  ⟨fun _ _ _ hs => (nomatch hs), fun _ => rfl⟩

omit [Scalar ν] in
/-- Where the last status and the last verdict stay, it is enough that the settings stay or that the
wake-up is stored. -/
theorem InLine.of_frame {t t' : ZoneTask ν} (h : t.InLine) (hlatest : t'.latest? = t.latest?)
    (hverdict : t'.loop.zone.lastVerdict = t.loop.zone.lastVerdict)
    (hzone : t'.loop.zone.wakeUp = true ∨ (t'.loop.zone.settings = t.loop.zone.settings ∧
      t'.loop.zone.wakeUp = t.loop.zone.wakeUp)) : t'.InLine := by
  refine ⟨fun hw s shown hs hv => ?_, fun hnone => ?_⟩
  · rcases hzone with htrue | ⟨hsettings, hwake⟩
    · rw [htrue] at hw
      cases hw
    · rw [hsettings]
      exact h.settings (hwake.symm.trans hw) s shown (hlatest.symm.trans hs) hv
  · exact hlatest.trans (h.verdict (hverdict.symm.trans hnone))

/-- A status that was just made is in line. -/
theorem inLine_of_held {t : ZoneTask ν} {verdict : Signal (CallingStatus ν)}
    (hverdict : t.loop.zone.lastVerdict = some verdict)
    (hheld : t.held = some (t.loop.zone.render verdict)) : t.InLine := by
  have hlatest : t.latest? = some (t.loop.zone.render verdict) := by
    rw [latest?, hheld]
    rfl
  refine ⟨fun _ s shown hs hv => ?_, fun hnone => ?_⟩
  · cases hlatest.symm.trans hs
    exact ((t.loop.zone.shows_render verdict).value shown hv).1
  · cases hverdict.symm.trans hnone

omit [Scalar ν] in
/-- What the loop does without a status for it makes no other status the last one. -/
theorem latest?_of_held {t : ZoneTask ν} (hheld : t.held = none) (loop : ZoneLoop ν)
    (hstatuses : loop.statuses = t.loop.statuses) : latest? ⟨loop, none⟩ = t.latest? := by
  rw [latest?, latest?, hheld, hstatuses]

theorem InLine.takeSample {t : ZoneTask ν} (h : t.InLine) (hheld : t.held = none)
    (now : Instant) : (t.takeSample now).InLine := by
  rw [ZoneTask.takeSample, ZoneLoop.answerSample]
  cases hs : t.loop.samples with
  | nil => exact h.of_frame (latest?_of_held hheld _ rfl) rfl (.inr ⟨rfl, rfl⟩)
  | cons sample rest =>
      dsimp only
      by_cases hr : t.loop.isRunning = true
      · rw [if_pos hr]
        obtain ⟨thermostat, lastVerdict, hfst, -⟩ := t.loop.zone.attempt_fst now sample
        cases ha : t.loop.zone.attempt now sample with
        | mk zone answer =>
            have hanswer : (t.loop.zone.attempt now sample).2 = answer := congrArg Prod.snd ha
            cases answer with
            | ok status =>
                obtain ⟨verdict, -, hlast, hstatus⟩ := Zone.attempt_ok hanswer
                rw [ha] at hlast hstatus
                exact inLine_of_held (t := ⟨_, _⟩) hlast (congrArg some hstatus)
            | error f =>
                have hlast := Zone.lastVerdict_of_attempt_error hanswer
                rw [ha] at hlast hfst
                refine h.of_frame (latest?_of_held hheld _ rfl) hlast (.inr ?_)
                simp only at hfst
                rw [hfst]
                exact ⟨rfl, rfl⟩
      · rw [if_neg hr]
        exact h.of_frame (latest?_of_held hheld _ rfl) rfl (.inr ⟨rfl, rfl⟩)

theorem InLine.takeWakeUp {t : ZoneTask ν} (h : t.InLine) (hheld : t.held = none) :
    t.takeWakeUp.InLine := by
  rw [ZoneTask.takeWakeUp, ZoneLoop.answerWakeUp]
  by_cases hr : t.loop.isRunning = true
  · rw [if_pos hr, Zone.answerWakeUp]
    by_cases hw : t.loop.zone.wakeUp = true
    · rw [if_pos hw, Zone.replay?]
      cases hl : t.loop.zone.lastVerdict with
      | none =>
          -- Nothing was ever shown, so nothing is out of date.
          have hnone := h.verdict hl
          rw [latest?, hheld] at hnone
          refine ⟨fun _ _ _ hs => ?_, fun _ => hnone⟩
          cases hnone.symm.trans hs
      | some verdict => exact inLine_of_held (t := ⟨_, _⟩) rfl rfl
    · rw [if_neg hw]
      exact h.of_frame (latest?_of_held hheld _ rfl) rfl (.inr ⟨rfl, rfl⟩)
  · rw [if_neg hr]
    exact h.of_frame (latest?_of_held hheld _ rfl) rfl (.inr ⟨rfl, rfl⟩)

/-- A reading outside changes only the economizer. -/
theorem InLine.takeReading {t : ZoneTask ν} (h : t.InLine) (now : Instant) :
    InLine { t with loop := t.loop.takeReading now } := by
  rw [ZoneLoop.takeReading]
  cases hs : t.loop.readings with
  | nil => exact h
  | cons reading rest =>
      dsimp only
      by_cases hr : t.loop.readsAmbient = true
      · rw [if_pos hr]
        have hfst := Zone.withEconomizer_fst t.loop.zone (·.recordAmbient now reading)
        rw [Zone.recordAmbient]
        cases ha : t.loop.zone.withEconomizer (·.recordAmbient now reading) with
        | mk zone answer =>
            rw [ha] at hfst
            simp only at hfst
            subst hfst
            cases answer with
            | ok _ => exact h.of_frame rfl rfl (.inr ⟨rfl, rfl⟩)
            | error f => exact h.of_frame rfl rfl (.inr ⟨rfl, rfl⟩)
      · rw [if_neg hr]
        exact h.of_frame rfl rfl (.inr ⟨rfl, rfl⟩)

theorem close_frame (z : Zone ν) :
    z.close.lastVerdict = z.lastVerdict ∧ z.close.settings = z.settings ∧
      z.close.wakeUp = z.wakeUp := by
  rw [Zone.close]
  split <;> exact ⟨rfl, rfl, rfl⟩

omit [Scalar ν] in
/-- To give a status away makes no other the last one. -/
theorem latest?_give (t : ZoneTask ν) : t.give.latest? = t.latest? := by
  rw [latest?, latest?, give, ZoneLoop.give]
  cases t.held with
  | none => simp
  | some status => simp

theorem InLine.step {t t' : ZoneTask ν} (h : t.InLine) (hstep : Step t t') : t'.InLine := by
  cases hstep with
  | arrive sample => exact h.of_frame rfl rfl (.inr ⟨rfl, rfl⟩)
  | arriveOutside reading => exact h.of_frame rfl rfl (.inr ⟨rfl, rfl⟩)
  | setSettings update =>
      exact h.of_frame rfl (t.loop.zone.adjusts_setSettings update).lastVerdict
        (t.loop.zone.setSettings_outcome update)
  | setPeriod period =>
      exact h.of_frame rfl (t.loop.zone.adjusts_setPeriod period).lastVerdict
        (t.loop.zone.setPeriod_outcome period)
  | close => exact h.of_frame rfl (close_frame _).1 (.inr (close_frame _).2)
  | takeReading now => exact h.takeReading now
  | takeSample now hheld => exact h.takeSample hheld now
  | takeWakeUp hheld => exact h.takeWakeUp hheld
  | give => exact h.of_frame t.latest?_give rfl (.inr ⟨rfl, rfl⟩)

theorem InLine.after {t t' : ZoneTask ν} (h : t.InLine) (hruns : Relation.ReflTransGen Step t t') :
    t'.InLine := by
  induction hruns with
  | refl => exact h
  | tail _ hstep ih => exact ih.step hstep

/-- However changes, arrivals and the work of the task follow each other: if no look at the zone is
still to come, the last status has its settings, whether it was given or is on its way. -/
theorem no_change_is_lost (zone : Zone ν) {t : ZoneTask ν}
    (hruns : Relation.ReflTransGen Step (start zone) t) (hwake : t.loop.zone.wakeUp = false) :
    (∀ s shown, t.held = none → t.loop.statuses.getLast? = some s → s.value? = some shown →
        shown.settings = t.loop.zone.settings) ∧
      ∀ s shown, t.held = some s → s.value? = some shown →
        shown.settings = t.loop.zone.settings := by
  have hline := (inLine_start zone).after hruns
  refine ⟨fun s shown hheld hlast hv => ?_, fun s shown hheld hv => ?_⟩
  · refine hline.settings hwake s shown ?_ hv
    rw [latest?, hheld]
    exact hlast
  · refine hline.settings hwake s shown ?_ hv
    rw [latest?, hheld]
    rfl

/-- A den whose setpoint changes while the status of a sample is on its way.  The status that is
given for the wake-up has the new settings. -/
theorem no_change_is_lost_in_den :
    ∃ (thermostat : Thermostat Rat) (den : Zone Rat) (t : ZoneTask Rat),
      Thermostat.create "den" 20 .standard (PidSettings.ofGains 1 0 0 0) = .ok thermostat ∧
      Zone.create thermostat {} none = .ok den ∧ Relation.ReflTransGen Step (start den) t ∧
      t.held = none ∧ t.loop.zone.wakeUp = false ∧ t.loop.statuses.length = 2 ∧
      ∃ s shown, t.loop.statuses.getLast? = some s ∧ s.value? = some shown ∧
        shown.settings = t.loop.zone.settings ∧ shown.settings.setpoint = some 22 := by
  let clock : Instant := .ofEpoch 60 0
  let update : ZoneSettings Rat := { setpoint := some 22 }
  let run (den : Zone Rat) : ZoneTask Rat :=
    let t : ZoneTask Rat := ⟨{ ZoneLoop.start den with samples := [.healthy clock 25] }, none⟩
    ((t.takeSample clock).modify fun z => (z.setSettings update).1).give.takeWakeUp.give
  have hruns : Outcome.holds (do
      let thermostat ← Thermostat.create "den" 20 .standard (PidSettings.ofGains 1 0 0 0)
      let den ← Zone.create thermostat {} none
      return (thermostat, den))
    (fun (_, den) => !(run den).loop.zone.wakeUp && (run den).loop.statuses.length == 2 &&
      (run den).loop.zone.settings.setpoint == some 22 &&
      ((run den).loop.statuses.getLast?.bind Signal.value?).isSome) = true := by decide +kernel
  obtain ⟨⟨thermostat, den⟩, hbuilt, htest⟩ := Outcome.exists_of_holds hruns
  obtain ⟨_, hthermostat, hbuilt⟩ := Outcome.of_bind_eq_ok hbuilt
  obtain ⟨_, hden, hbuilt⟩ := Outcome.of_bind_eq_ok hbuilt
  cases hbuilt
  simp only [Bool.and_eq_true, Bool.not_eq_true', beq_iff_eq] at htest
  obtain ⟨⟨⟨hwake, hlength⟩, hsetpoint⟩, hvalue⟩ := htest
  have hsteps : Relation.ReflTransGen Step (start den) (run den) :=
    .head (.arrive (.healthy clock 25)) <| .head (.takeSample clock rfl) <|
      .head (.setSettings update) <| .head .give <| .head (.takeWakeUp rfl) <| .single .give
  obtain ⟨shown, hshown⟩ := Option.isSome_iff_exists.mp hvalue
  obtain ⟨s, hs, hv⟩ := Option.bind_eq_some_iff.mp hshown
  have hsettings := (no_change_is_lost den hsteps hwake).1 s shown rfl hs hv
  exact ⟨_, _, _, hthermostat, hden, hsteps, rfl, hwake, hlength, s, shown, hs, hv, hsettings,
    hsettings ▸ hsetpoint⟩

end ZoneTask

end HomeClimate
