import HomeClimate.Proofs.Zone.Changes

/-!
# Zones and what they were told

A zone keeps what it was told in three places: its settings, the setpoint of its
thermostat, and the settings of its economizer.  `IsConsistent` says that the three
agree, and that the setpoint is one that the thermostat accepts.

An update touches the places one after the other, and each may refuse.  A check comes
first, but it looks at the update alone, while the economizer is given the block that
the zone has after the update.  That may be an older one.  If it was accepted before
(`HasRightBlock`), as in a consistent zone, the economizer cannot refuse it.  Hence an
update is taken as a whole or not at all, and which of the two depends only on the
update and on the range of the thermostat (`apply_cases`).

So every call keeps a zone consistent, and a rejected update leaves no trace
(`consistent_and_atomic`).
-/

namespace HomeClimate

variable {ν : Type} [Scalar ν]

/-! ## Controllers -/

theorem ensureFinite_eq_ok_iff {quantity : ControlQuantity} {value : ν} :
    ensureFinite quantity value = .ok () ↔ Scalar.isFinite value = true := by
  cases h : Scalar.isFinite value <;> simp [ensureFinite, Scalar.finite, h]

theorem checkEconomizerSettings_eq_ok_iff {s : EconomizerSettings ν} :
    (checkEconomizerSettings s : Except (ZoneError ν) Unit) = .ok () ↔ s.check = .ok () := by
  cases h : s.check <;> simp [checkEconomizerSettings, h]

namespace Pid

theorem setpoint_setSetpoint {c c' : Pid ν} {setpoint : ν} (h : c.setSetpoint setpoint = .ok c') :
    c'.loop.setpoint = setpoint := by
  obtain ⟨moved, hmoved, h⟩ := Outcome.of_bind_eq_ok h
  obtain ⟨_, -, hmoved⟩ := Outcome.of_bind_eq_ok hmoved
  cases hmoved
  rw [← Except.ok.inj h]
  split <;> rfl

theorem setpoint_weigh {c c' : Pid ν} {now : Instant} {value : ν} (h : c.weigh now value = .ok c') :
    c'.loop.setpoint = c.loop.setpoint := by
  simp only [weigh] at h
  split at h
  · split at h
    · cases h
    · obtain ⟨_, -, h⟩ := Outcome.of_bind_eq_ok h
      cases h
      rfl
  · obtain ⟨_, -, h⟩ := Outcome.of_bind_eq_ok h
    cases h
    rfl

/-- A sample does not move the setpoint, even if the controller is given up on. -/
theorem setpoint_attempt (c : Pid ν) (now : Instant) (value : ν) :
    (c.attempt now value).1.loop.setpoint = c.loop.setpoint := by
  rw [attempt]
  cases h : c.weigh now value with
  | error f => rfl
  | ok c' =>
      have hkept := setpoint_weigh h
      dsimp only
      split <;> exact hkept

end Pid

namespace Thermostat

theorem setSetpoint_eq_ok {t : Thermostat ν} {setpoint : ν} (hr : t.range.contains setpoint = true)
    (hf : Scalar.isFinite setpoint = true) : ∃ t', t.setSetpoint setpoint = .ok t' := by
  have hfinite : ensureFinite .setpoint setpoint = .ok () := ensureFinite_eq_ok_iff.mpr hf
  simp [setSetpoint, SetpointRange.check, hr, Pid.setSetpoint, ControlLoop.setSetpoint, hfinite,
    ZoneError.ofControl, bind, Except.bind, pure, Except.pure]

/-- A setpoint that is taken is in the range and finite. -/
theorem of_setSetpoint_eq_ok {t t' : Thermostat ν} {setpoint : ν}
    (h : t.setSetpoint setpoint = .ok t') :
    t.range.contains setpoint = true ∧ Scalar.isFinite setpoint = true ∧
      t'.setpoint = setpoint ∧ t'.range = t.range := by
  obtain ⟨_, hrange, h⟩ := Outcome.of_bind_eq_ok h
  obtain ⟨c, hc, h⟩ := Outcome.of_bind_eq_ok h
  have hc := ZoneError.ofControl_eq_ok hc
  obtain ⟨moved, hmoved, -⟩ := Outcome.of_bind_eq_ok hc
  obtain ⟨_, hfinite, -⟩ := Outcome.of_bind_eq_ok hmoved
  cases h
  refine ⟨?_, ensureFinite_eq_ok_iff.mp hfinite, Pid.setpoint_setSetpoint hc, rfl⟩
  by_contra hr
  simp [SetpointRange.check, hr] at hrange

theorem setpoint_attemptSample (t : Thermostat ν) (sample : Signal ν) :
    (t.attemptSample sample).1.setpoint = t.setpoint ∧
      (t.attemptSample sample).1.range = t.range := by
  rw [attemptSample]
  cases sample.value? with
  | none => exact ⟨rfl, rfl⟩
  | some v =>
      have h := t.controller.setpoint_attempt sample.time v
      dsimp only
      rw [attempt]
      cases ha : t.controller.attempt sample.time v with
      | mk c answer =>
          rw [ha] at h
          cases answer <;> exact ⟨h, rfl⟩

end Thermostat

namespace Zone

/-! ## Consistency -/

/-- The three places agree, and what they say is right. -/
structure IsConsistent (z : Zone ν) : Prop where
  setpoint : z.settings.setpoint = some z.thermostat.setpoint
  range : z.thermostat.range.contains z.thermostat.setpoint = true
  economizer : ∀ e s, z.economizer = some e → z.settings.economizer = some s →
    s.check = .ok () ∧ e.settings = s

/-- The block of a zone with an economizer is one that an economizer takes. -/
def HasRightBlock (z : Zone ν) : Prop :=
  z.economizer.isSome = true → ∀ s, z.settings.economizer = some s → s.check = .ok ()

theorem IsConsistent.hasRightBlock {z : Zone ν} (h : z.IsConsistent) : z.HasRightBlock := by
  intro hsome s hs
  obtain ⟨e, he⟩ := Option.isSome_iff_exists.mp hsome
  exact (h.economizer e s he hs).1

/-- What is right about an update, seen by itself. -/
structure Accepts (z : Zone ν) (update : ZoneSettings ν) : Prop where
  setpoint : ∀ s, update.setpoint = some s →
    z.thermostat.range.contains s = true ∧ Scalar.isFinite s = true
  economizer : ∀ s, update.economizer = some s → s.check = .ok ()

theorem Accepts.of_range {z z' : Zone ν} {update : ZoneSettings ν} (h : z.Accepts update)
    (hr : z'.thermostat.range = z.thermostat.range) : z'.Accepts update :=
  ⟨fun s hs => hr ▸ h.setpoint s hs, h.economizer⟩

/-- A consistent zone stays so where no place is told anything else. -/
theorem IsConsistent.of_unchanged {z z' : Zone ν} (h : z.IsConsistent)
    (hs : z'.settings = z.settings) (ht : z'.thermostat.setpoint = z.thermostat.setpoint)
    (hr : z'.thermostat.range = z.thermostat.range)
    (he : ∀ e', z'.economizer = some e' → ∃ e, z.economizer = some e ∧ e'.settings = e.settings) :
    z'.IsConsistent := by
  refine ⟨?_, ?_, ?_⟩
  · rw [hs, ht]
    exact h.setpoint
  · rw [ht, hr]
    exact h.range
  · intro e' s hsome hblock
    obtain ⟨e, hsome, heq⟩ := he e' hsome
    rw [heq]
    exact h.economizer e s hsome (hs ▸ hblock)

/-! ## Updates -/

theorem checkUpdate_eq_ok_iff {z : Zone ν} {update : ZoneSettings ν} :
    z.checkUpdate update = .ok () ↔
      (∀ s, update.setpoint = some s → z.thermostat.range.contains s = true) ∧
        ∀ s, update.economizer = some s → s.check = .ok () := by
  cases hs : update.setpoint with
  | none =>
      cases he : update.economizer with
      | none => simp [checkUpdate, hs, he, bind, Except.bind]
      | some block =>
          simp [checkUpdate, hs, he, bind, Except.bind, checkEconomizerSettings_eq_ok_iff]
  | some s =>
      cases hr : z.thermostat.range.contains s with
      | false => simp [checkUpdate, hs, SetpointRange.check, hr, bind, Except.bind]
      | true =>
          cases he : update.economizer with
          | none => simp [checkUpdate, hs, he, SetpointRange.check, hr, bind, Except.bind]
          | some block =>
              simp [checkUpdate, hs, he, SetpointRange.check, hr, bind, Except.bind,
                checkEconomizerSettings_eq_ok_iff]

/-- An update is accepted if it passes the check and the thermostat takes its setpoint. -/
theorem accepts_iff {z : Zone ν} {update : ZoneSettings ν} :
    z.Accepts update ↔
      z.checkUpdate update = .ok () ∧ ∃ t, retarget z.thermostat update = .ok t := by
  rw [checkUpdate_eq_ok_iff]
  constructor
  · intro h
    refine ⟨⟨fun s hs => (h.setpoint s hs).1, h.economizer⟩, ?_⟩
    cases hs : update.setpoint with
    | none => exact ⟨z.thermostat, by simp [retarget, hs]⟩
    | some s =>
        obtain ⟨hr, hf⟩ := h.setpoint s hs
        simpa [retarget, hs] using Thermostat.setSetpoint_eq_ok hr hf
  · rintro ⟨⟨hr, he⟩, t, ht⟩
    refine ⟨fun s hs => ⟨hr s hs, ?_⟩, he⟩
    rw [retarget, hs] at ht
    exact (Thermostat.of_setSetpoint_eq_ok ht).2.1

/-- An accepted update leaves the block of a zone right. -/
theorem HasRightBlock.merge {z : Zone ν} (h : z.HasRightBlock) {update : ZoneSettings ν}
    (hu : z.Accepts update) (hsome : z.economizer.isSome = true) {s : EconomizerSettings ν}
    (hs : (z.settings.merge update).economizer = some s) : s.check = .ok () := by
  cases hblock : update.economizer with
  | none => exact h hsome s (by simpa [ZoneSettings.merge, hblock] using hs)
  | some s' =>
      have hnew : s' = s := by simpa [ZoneSettings.merge, hblock] using hs
      exact hnew ▸ hu.economizer s' hblock

/-- The block that a zone with a right one has after an accepted update is one that the economizer
takes. -/
theorem HasRightBlock.configureEconomizer {z : Zone ν} (h : z.HasRightBlock)
    {update : ZoneSettings ν} (hu : z.Accepts update) :
    ∃ e, configureEconomizer z.economizer (z.settings.merge update) = .ok e := by
  cases he : z.economizer with
  | none => exact ⟨none, rfl⟩
  | some e =>
      cases hs : (z.settings.merge update).economizer with
      | none => exact ⟨some e, by simp [Zone.configureEconomizer, hs]⟩
      | some s =>
          obtain ⟨e', he'⟩ := e.setSettings_of_check (h.merge hu (by simp [he]) hs)
          exact ⟨some e', by simp [Zone.configureEconomizer, hs, he', Except.map]⟩

/-- What an update can do to a zone with a right block: it is rejected and nothing is changed, or it
is accepted and told to every place. -/
theorem apply_cases {z : Zone ν} (h : z.HasRightBlock) (update : ZoneSettings ν) :
    (¬ z.Accepts update ∧ ∃ e, z.apply update = (z, .error e)) ∨
      ∃ t e, z.Accepts update ∧ retarget z.thermostat update = .ok t ∧
        configureEconomizer z.economizer (z.settings.merge update) = .ok e ∧
        z.apply update =
          ({ z with thermostat := t, economizer := e, settings := z.settings.merge update },
            .ok (z.settings.merge update)) := by
  by_cases hu : z.Accepts update
  · obtain ⟨hcheck, t, ht⟩ := accepts_iff.mp hu
    obtain ⟨e, he⟩ := h.configureEconomizer hu
    exact .inr ⟨t, e, hu, ht, he, by simp [apply, hcheck, ht, he]⟩
  · refine .inl ⟨hu, ?_⟩
    cases hcheck : z.checkUpdate update with
    | error f => exact ⟨f, by simp [apply, hcheck]⟩
    | ok _ =>
        cases ht : retarget z.thermostat update with
        | error f => exact ⟨f, by simp [apply, hcheck, ht]⟩
        | ok t => exact absurd (accepts_iff.mpr ⟨hcheck, t, ht⟩) hu

/-- Places that were told the same are consistent. -/
theorem IsConsistent.told {z : Zone ν} (h : z.IsConsistent) {update : ZoneSettings ν}
    {t : Thermostat ν} {e : Option (Economizer ν)} (ht : retarget z.thermostat update = .ok t)
    (he : Zone.configureEconomizer z.economizer (z.settings.merge update) = .ok e) :
    IsConsistent
      { z with thermostat := t, economizer := e, settings := z.settings.merge update } := by
  have hthermostat : (z.settings.merge update).setpoint = some t.setpoint ∧
      t.range.contains t.setpoint = true := by
    cases hs : update.setpoint with
    | none =>
        have htt : t = z.thermostat := by simpa [retarget, hs, eq_comm] using ht
        rw [htt]
        exact ⟨by simpa [ZoneSettings.merge, hs] using h.setpoint, h.range⟩
    | some s =>
        rw [retarget, hs] at ht
        obtain ⟨hr, -, hset, hrange⟩ := Thermostat.of_setSetpoint_eq_ok ht
        rw [hset, hrange]
        exact ⟨by simp [ZoneSettings.merge, hs], hr⟩
  refine ⟨hthermostat.1, hthermostat.2, ?_⟩
  intro e' s he' hs
  cases hold : z.economizer with
  | none =>
      rw [hold] at he
      cases he
      cases he'
  | some e₀ =>
      simp only at hs he'
      simp only [Zone.configureEconomizer, hold, hs] at he
      obtain ⟨e₁, hset, heq⟩ := Outcome.of_map_eq_ok he
      rw [← heq] at he'
      cases he'
      exact Economizer.setSettings_settings hset

theorem IsConsistent.apply {z : Zone ν} (h : z.IsConsistent) (update : ZoneSettings ν) :
    (z.apply update).1.IsConsistent := by
  rcases apply_cases h.hasRightBlock update with ⟨-, e, heq⟩ | ⟨t, e, -, ht, he, heq⟩
  · rw [heq]
    exact h
  · rw [heq]
    exact h.told ht he

/-- A user's update is taken as a whole or not at all. -/
theorem setSettings_cases {z : Zone ν} (h : z.IsConsistent) (update : ZoneSettings ν) :
    (¬ z.Accepts update ∧ ∃ e, z.setSettings update = (z, .error e)) ∨
      (z.Accepts update ∧ (z.setSettings update).2 = .ok (z.settings.merge update) ∧
        (z.setSettings update).1.settings = z.settings.merge update) := by
  rcases apply_cases h.hasRightBlock update with ⟨hu, e, heq⟩ | ⟨t, e, hu, -, -, heq⟩
  · exact .inl ⟨hu, e, by simp [setSettings, heq]⟩
  · exact .inr ⟨hu, by simp [setSettings, heq]⟩

theorem IsConsistent.setSettings {z : Zone ν} (h : z.IsConsistent) (update : ZoneSettings ν) :
    (z.setSettings update).1.IsConsistent := by
  have happly := h.apply update
  rw [Zone.setSettings]
  cases ha : z.apply update with
  | mk z' answer =>
      rw [ha] at happly
      cases answer with
      | error e => exact happly
      | ok merged => exact ⟨happly.setpoint, happly.range, happly.economizer⟩

/-! ## Periods -/

/-- What a period that begins can do to a consistent zone.  It is remembered in any case. -/
theorem setPeriod_cases {z : Zone ν} (h : z.IsConsistent) (p : PeriodSettings ν) :
    (z.settings.isOnHold = true ∧ z.setPeriod (some p) = ({ z with period := some p }, .ok ())) ∨
      (z.settings.isOnHold = false ∧ ¬ z.Accepts p.settings ∧
        ∃ e, z.setPeriod (some p) = ({ z with period := some p }, .error e)) ∨
      (z.settings.isOnHold = false ∧ z.Accepts p.settings ∧
        (z.setPeriod (some p)).2 = .ok () ∧
        (z.setPeriod (some p)).1.settings = z.settings.merge p.settings ∧
        (z.setPeriod (some p)).1.period = some p ∧
        (z.setPeriod (some p)).1.IsConsistent) := by
  have hz : IsConsistent { z with period := some p } := ⟨h.setpoint, h.range, h.economizer⟩
  cases hold : z.settings.isOnHold with
  | true => exact .inl ⟨rfl, by simp [setPeriod, hold]⟩
  | false =>
      refine .inr ?_
      rcases apply_cases hz.hasRightBlock p.settings with ⟨hu, e, heq⟩ | ⟨t, e, hu, ht, he, heq⟩
      · exact .inl ⟨rfl, fun ha => hu ⟨ha.setpoint, ha.economizer⟩, e, by simp [setPeriod, hold, heq]⟩
      · have hnext := hz.told ht he
        refine .inr ⟨rfl, ⟨hu.setpoint, hu.economizer⟩, ?_⟩
        simp only [setPeriod, hold, heq]
        exact ⟨rfl, rfl, rfl, hnext.setpoint, hnext.range, hnext.economizer⟩

theorem IsConsistent.setPeriod {z : Zone ν} (h : z.IsConsistent)
    (period : Option (PeriodSettings ν)) : (z.setPeriod period).1.IsConsistent := by
  cases period with
  | none => exact ⟨h.setpoint, h.range, h.economizer⟩
  | some p =>
      have hz : IsConsistent { z with period := some p } := ⟨h.setpoint, h.range, h.economizer⟩
      rcases setPeriod_cases h p with ⟨-, heq⟩ | ⟨-, -, e, heq⟩ | ⟨-, -, -, -, -, hnext⟩
      · rw [heq]
        exact hz
      · rw [heq]
        exact hz
      · exact hnext

/-! ## Samples and readings -/

theorem IsConsistent.attempt {z : Zone ν} (h : z.IsConsistent) (now : Instant)
    (sample : Signal ν) : (z.attempt now sample).1.IsConsistent := by
  obtain ⟨thermostat, lastVerdict, hfst, hor⟩ := z.attempt_fst now sample
  have hthermostat : thermostat.setpoint = z.thermostat.setpoint ∧
      thermostat.range = z.thermostat.range := by
    rcases hor with rfl | rfl
    · exact ⟨rfl, rfl⟩
    · exact z.thermostat.setpoint_attemptSample _
  rw [hfst]
  refine h.of_unchanged rfl hthermostat.1 hthermostat.2 fun e' he' => ?_
  obtain ⟨e, he, rfl⟩ := Option.map_eq_some_iff.mp he'
  exact ⟨e, he, by simp [Economizer.recordIndoor]⟩

theorem IsConsistent.recordAmbient {z : Zone ν} (h : z.IsConsistent) (now : Instant)
    (reading : Signal ν) : (z.recordAmbient now reading).1.IsConsistent := by
  rw [Zone.recordAmbient, withEconomizer_fst]
  refine h.of_unchanged rfl rfl rfl fun e' he' => ?_
  obtain ⟨e, he, rfl⟩ := Option.map_eq_some_iff.mp he'
  exact ⟨e, he, by simp [Economizer.recordAmbient]⟩

theorem IsConsistent.close {z : Zone ν} (h : z.IsConsistent) : z.close.IsConsistent := by
  rw [Zone.close]
  split
  · exact h
  · refine h.of_unchanged rfl rfl rfl fun e' he' => ?_
    obtain ⟨e, he, rfl⟩ := Option.map_eq_some_iff.mp he'
    exact ⟨e, he, by simp⟩

/-- A zone is consistent from the start, whatever thermostat and economizer it is given. -/
theorem isConsistent_create {thermostat : Thermostat ν} {settings : ZoneSettings ν}
    {economizer : Option (Economizer ν)} {z : Zone ν}
    (h : create thermostat settings economizer = .ok z) :
    z.IsConsistent ∧ z.thermostat.range = thermostat.range ∧ z.period = none := by
  obtain ⟨t, ht, h⟩ := Outcome.of_bind_eq_ok h
  obtain ⟨e, he, h⟩ := Outcome.of_bind_eq_ok h
  obtain ⟨hr, -, hset, hrange⟩ := Thermostat.of_setSetpoint_eq_ok ht
  cases h
  refine ⟨⟨by simp [hset], by simpa [hset, hrange] using hr, ?_⟩, hrange, rfl⟩
  intro e' s he' hs
  cases economizer with
  | none =>
      cases he
      cases he'
  | some e₀ =>
      simp only at hs he'
      simp only [configureEconomizer, hs] at he
      obtain ⟨e₁, hset, heq⟩ := Outcome.of_map_eq_ok he
      rw [← heq] at he'
      cases he'
      exact Economizer.setSettings_settings hset

end Zone

/-! ## Calls -/

/-- What can be done to a zone, at any time and in any order. -/
inductive ZoneCall (ν : Type) where
  /-- It takes a sample, while the clock shows a time. -/
  | sample (clock : Instant) (sample : Signal ν)
  /-- Its economizer takes a reading outside, while the clock shows a time. -/
  | ambient (clock : Instant) (reading : Signal ν)
  /-- A user changes the settings. -/
  | settings (update : ZoneSettings ν)
  /-- A period begins, or none is left. -/
  | period (period : Option (PeriodSettings ν))
  /-- The last verdict is shown again. -/
  | replay
  /-- Someone looks at the changes. -/
  | look
  /-- It is shut down. -/
  | close

/-- Whether a call is about the period of the zone. -/
def ZoneCall.isPeriod : ZoneCall ν → Bool
  | .period _ => true
  | _ => false

namespace Zone

/-- A zone after a call, as it is left even by a fault. -/
def call (z : Zone ν) : ZoneCall ν → Zone ν
  | .sample clock sample => (z.attempt clock sample).1
  | .ambient clock reading => (z.recordAmbient clock reading).1
  | .settings update => (z.setSettings update).1
  | .period period => (z.setPeriod period).1
  | .replay => z
  | .look => z.answerWakeUp.1
  | .close => z.close

/-- A zone after some calls. -/
def after (z : Zone ν) (calls : List (ZoneCall ν)) : Zone ν := calls.foldl call z

/-- Every call keeps a zone consistent. -/
theorem IsConsistent.call {z : Zone ν} (h : z.IsConsistent) (c : ZoneCall ν) :
    (z.call c).IsConsistent := by
  cases c with
  | sample clock sample => exact h.attempt clock sample
  | ambient clock reading => exact h.recordAmbient clock reading
  | settings update => exact h.setSettings update
  | period period => exact h.setPeriod period
  | replay => exact h
  | look =>
      rw [Zone.call, answerWakeUp]
      split
      · exact ⟨h.setpoint, h.range, h.economizer⟩
      · exact h
  | close => exact h.close

theorem Adjusts.range {z z' : Zone ν} (h : z.Adjusts z') :
    z'.thermostat.range = z.thermostat.range := by
  rcases h.thermostat with heq | ⟨setpoint, hset⟩
  · rw [heq]
  · exact (Thermostat.of_setSetpoint_eq_ok hset).2.2.2

/-- No call gives the zone another name or its thermostat another range. -/
theorem call_frame (z : Zone ν) (c : ZoneCall ν) :
    (z.call c).name = z.name ∧ (z.call c).thermostat.range = z.thermostat.range := by
  cases c with
  | sample clock sample =>
      obtain ⟨thermostat, lastVerdict, hfst, hor⟩ := z.attempt_fst clock sample
      rw [call, hfst]
      rcases hor with rfl | rfl
      · exact ⟨rfl, rfl⟩
      · exact ⟨rfl, (z.thermostat.setpoint_attemptSample _).2⟩
  | ambient clock reading =>
      rw [call, recordAmbient, withEconomizer_fst]
      exact ⟨rfl, rfl⟩
  | settings update =>
      have h := z.adjusts_setSettings update
      exact ⟨h.name, h.range⟩
  | period period =>
      have h := z.adjusts_setPeriod period
      exact ⟨h.name, h.range⟩
  | replay => exact ⟨rfl, rfl⟩
  | look =>
      have h := z.adjusts_answerWakeUp
      exact ⟨h.name, h.range⟩
  | close =>
      rw [call, close]
      split <;> exact ⟨rfl, rfl⟩

theorem apply_period (z : Zone ν) (update : ZoneSettings ν) :
    (z.apply update).1.period = z.period := by
  rw [apply]
  split
  · rfl
  · split
    · rfl
    · dsimp only
      split <;> rfl

/-- Only a call about the period changes what period the zone remembers. -/
theorem call_period (z : Zone ν) {c : ZoneCall ν} (hc : c.isPeriod = false) :
    (z.call c).period = z.period := by
  cases c with
  | sample clock sample =>
      obtain ⟨thermostat, lastVerdict, hfst, -⟩ := z.attempt_fst clock sample
      rw [call, hfst]
  | ambient clock reading => rw [call, recordAmbient, withEconomizer_fst]
  | settings update =>
      have h := z.apply_period update
      rw [call, setSettings]
      cases ha : z.apply update with
      | mk z' answer =>
          rw [ha] at h
          cases answer <;> exact h
  | period period => cases hc
  | replay => rfl
  | look =>
      rw [call, answerWakeUp]
      split <;> rfl
  | close =>
      rw [call, close]
      split <;> rfl

theorem IsConsistent.after {z : Zone ν} (h : z.IsConsistent) (calls : List (ZoneCall ν)) :
    (z.after calls).IsConsistent ∧ (z.after calls).thermostat.range = z.thermostat.range := by
  induction calls generalizing z with
  | nil => exact ⟨h, rfl⟩
  | cons c rest ih =>
      obtain ⟨hnext, hrange⟩ := ih (h.call c)
      exact ⟨hnext, hrange.trans (z.call_frame c).2⟩

/-- Whatever is done to a zone, its setpoint is that of its thermostat and in the range, and its
block is right and that of its economizer.  An update is rejected without a trace, or it is accepted
and merged. -/
theorem consistent_and_atomic {thermostat : Thermostat ν} {settings : ZoneSettings ν}
    {economizer : Option (Economizer ν)} {z : Zone ν}
    (h : create thermostat settings economizer = .ok z) (calls : List (ZoneCall ν)) :
    (z.after calls).IsConsistent ∧ (z.after calls).thermostat.range = thermostat.range ∧
      (∀ update e, ((z.after calls).setSettings update).2 = .error e →
        ((z.after calls).setSettings update).1 = z.after calls) ∧
      ∀ update, (z.after calls).Accepts update →
        ((z.after calls).setSettings update).2 = .ok ((z.after calls).settings.merge update) ∧
          ((z.after calls).setSettings update).1.settings =
            (z.after calls).settings.merge update := by
  obtain ⟨hz, hrange, -⟩ := isConsistent_create h
  obtain ⟨hafter, hkept⟩ := hz.after calls
  refine ⟨hafter, hkept.trans hrange, fun update e he => ?_, fun update hu => ?_⟩
  · rcases setSettings_cases hafter update with ⟨-, _, heq⟩ | ⟨-, hok, -⟩
    · rw [heq]
    · rw [hok] at he
      cases he
  · rcases setSettings_cases hafter update with ⟨hnot, -⟩ | ⟨-, hok, hmerged⟩
    · exact absurd hu hnot
    · exact ⟨hok, hmerged⟩

/-- A den with an economizer, after a period that it rejected, a block of its own and a warm sample.
It does not take a setpoint of 50, nor the rest of that update. -/
theorem consistent_and_atomic_in_den :
    let calls : List (ZoneCall Rat) :=
      [.period (some ⟨"night", { setpoint := some 5 }⟩),
       .settings { setpoint := some 22, economizer := some (.ofTarget 3 19) },
       .sample (.ofEpoch 60 0) (.healthy (.ofEpoch 60 0) 25)]
    let update : ZoneSettings Rat := { enabled := some false, setpoint := some 50 }
    ∃ (thermostat : Thermostat Rat) (e : Economizer Rat) (den : Zone Rat),
      Thermostat.create "den" 20 .standard (PidSettings.ofGains 1 1 0 0) = .ok thermostat ∧
      Economizer.create "den" (.standard .cooling (.ofTarget 2 18)) ⟨"damper", [.cooling]⟩ = .ok e ∧
      create thermostat {} (some e) = .ok den ∧ (den.after calls).IsConsistent ∧
      (den.after calls).settings.setpoint = some 22 ∧
      ∃ error, (den.after calls).setSettings update = (den.after calls, .error error) := by
  intro calls update
  have hruns : Outcome.holds (do
      let thermostat ← Thermostat.create "den" 20 .standard (PidSettings.ofGains 1 1 0 0)
      let e ← Economizer.create "den" (.standard .cooling (.ofTarget 2 18)) ⟨"damper", [.cooling]⟩
      let den ← create thermostat {} (some e)
      return (thermostat, e, den))
    (fun (_, _, den) => (den.after calls).settings.setpoint == some 22 &&
      !((den.after calls).setSettings update).2.isOk) = true := by decide +kernel
  obtain ⟨⟨thermostat, e, den⟩, hbuilt, htest⟩ := Outcome.exists_of_holds hruns
  obtain ⟨_, hthermostat, hbuilt⟩ := Outcome.of_bind_eq_ok hbuilt
  obtain ⟨_, he, hbuilt⟩ := Outcome.of_bind_eq_ok hbuilt
  obtain ⟨_, hden, hbuilt⟩ := Outcome.of_bind_eq_ok hbuilt
  cases hbuilt
  obtain ⟨hset, hrejected⟩ := Bool.and_eq_true_iff.mp htest
  obtain ⟨hconsistent, -, hatomic, -⟩ := consistent_and_atomic hden calls
  refine ⟨_, _, _, hthermostat, he, hden, hconsistent, by simpa using hset, ?_⟩
  cases ha : (den.after calls).setSettings update with
  | mk z answer =>
      have hkept := hatomic update
      rw [ha] at hrejected hkept
      cases answer with
      | ok merged => cases hrejected
      | error error => exact ⟨error, by rw [← hkept error rfl]⟩

end Zone

end HomeClimate
