import HomeClimate.Proofs.Zone.Consistency
import HomeClimate.Proofs.Zone.Operated

/-!
# Zones that share their economizer

Whoever has made an economizer may keep hold of it when a zone gets it, and a zone hands
its economizer to whoever asks.  So readings and settings can reach an economizer without
the zone, and it can be shut down alone.  A `SharedCall` is one of the zone or one of its
economizer.

* To its economizer a zone is one caller among others: whatever is done to either, the
  economizer has got some calls (`operates_throughout`).
* A block that an economizer is given behind the back of its zone is not written down by the
  zone.  What the zone has written down stays right (`HasRightBlock.throughout`), and this is
  all that a period depends on.

A period is remembered first and then applied.  If it is rejected, that is the one thing that
the call has done (`rejected_period`): the zone remembers a period whose settings it does not
have.
-/

namespace HomeClimate

variable {ν : Type} [Scalar ν]

/-- What can be done to a zone, and by others to its economizer. -/
inductive SharedCall (ν : Type) where
  /-- Something is done to the zone. -/
  | zone (call : ZoneCall ν)
  /-- Something is done to its economizer, if it has one. -/
  | economizer (call : EconomizerCall ν)

namespace Zone

/-- A zone after a call of it or of its economizer. -/
def meet (z : Zone ν) : SharedCall ν → Zone ν
  | .zone call => z.call call
  | .economizer call => { z with economizer := z.economizer.map (·.after call) }

/-- A zone after some calls of it and of its economizer. -/
def throughout (z : Zone ν) (calls : List (SharedCall ν)) : Zone ν := calls.foldl meet z

/-! ## The economizer's side -/

theorem operates_call (z : Zone ν) (call : ZoneCall ν) : z.Operates (z.call call) := by
  cases call with
  | sample clock sample => exact z.operates_attempt clock sample
  | ambient clock reading => exact z.operates_recordAmbient clock reading
  | settings update => exact (z.adjusts_setSettings update).operates
  | period period => exact (z.adjusts_setPeriod period).operates
  | replay => exact .refl z
  | look => exact z.adjusts_answerWakeUp.operates
  | close => exact z.operates_close

theorem operates_meet (z : Zone ν) (call : SharedCall ν) : z.Operates (z.meet call) := by
  cases call with
  | zone call => exact z.operates_call call
  | economizer call => exact .of_call call rfl

/-- Whatever is done to a zone and to its economizer, the economizer has got some calls. -/
theorem operates_throughout (z : Zone ν) (calls : List (SharedCall ν)) :
    z.Operates (z.throughout calls) := by
  induction calls generalizing z with
  | nil => exact .refl z
  | cons call rest ih => exact (z.operates_meet call).trans (ih (z.meet call))

/-! ## The zone's side -/

/-- A zone whose settings stay keeps its block. -/
theorem HasRightBlock.of_settings_eq {z z' : Zone ν} (h : z.HasRightBlock)
    (hs : z'.settings = z.settings) (he : z'.economizer.isSome = z.economizer.isSome) :
    z'.HasRightBlock := by
  intro hsome s hblock
  exact h (he ▸ hsome) s (hs ▸ hblock)

theorem HasRightBlock.apply {z : Zone ν} (h : z.HasRightBlock) (update : ZoneSettings ν) :
    (z.apply update).1.HasRightBlock := by
  rcases apply_cases h update with ⟨-, e, heq⟩ | ⟨t, e, hu, -, he, heq⟩
  · rw [heq]
    exact h
  · rw [heq]
    intro hsome s hs
    refine h.merge hu ?_ hs
    rcases configureEconomizer_cases he with rfl | ⟨_, _, _, hold, -, -⟩
    · exact hsome
    · rw [hold]
      rfl

theorem HasRightBlock.call {z : Zone ν} (h : z.HasRightBlock) (call : ZoneCall ν) :
    (z.call call).HasRightBlock := by
  have hsome := (z.operates_call call).isSome
  cases call with
  | sample clock sample =>
      obtain ⟨thermostat, lastVerdict, hfst, -⟩ := z.attempt_fst clock sample
      exact h.of_settings_eq (by rw [Zone.call, hfst]) hsome
  | ambient clock reading =>
      exact h.of_settings_eq (by rw [Zone.call, recordAmbient, withEconomizer_fst]) hsome
  | settings update =>
      have hnext := h.apply update
      rw [Zone.call, setSettings]
      cases ha : z.apply update with
      | mk z' answer =>
          rw [ha] at hnext
          cases answer with
          | error f => exact hnext
          | ok merged => exact hnext.of_settings_eq rfl rfl
  | period period =>
      have hz : HasRightBlock { z with period } := h.of_settings_eq rfl rfl
      cases period with
      | none => exact hz
      | some p =>
          rw [Zone.call, setPeriod]
          dsimp only
          split
          · exact hz
          · have hnext := hz.apply p.settings
            cases ha : Zone.apply { z with period := some p } p.settings with
            | mk z' answer =>
                rw [ha] at hnext
                cases answer with
                | error f => exact hnext
                | ok merged => exact hnext.of_settings_eq rfl rfl
  | replay => exact h
  | look =>
      refine h.of_settings_eq ?_ hsome
      rw [Zone.call, answerWakeUp]
      split <;> rfl
  | close =>
      refine h.of_settings_eq ?_ hsome
      rw [Zone.call, close]
      split <;> rfl

/-- A zone goes by what it has written down, whatever its economizer is told meanwhile. -/
theorem HasRightBlock.throughout {z : Zone ν} (h : z.HasRightBlock)
    (calls : List (SharedCall ν)) : (z.throughout calls).HasRightBlock := by
  induction calls generalizing z with
  | nil => exact h
  | cons call rest ih =>
      refine ih ?_
      cases call with
      | zone call => exact h.call call
      | economizer call => exact h.of_settings_eq rfl (by simp [meet])

/-! ## Rejected periods -/

/-- A period is rejected if the zone is not on hold and does not accept its settings, and then the
zone remembers it and is otherwise as it was. -/
theorem HasRightBlock.setPeriod_cases {z : Zone ν} (h : z.HasRightBlock)
    (period : Option (PeriodSettings ν)) :
    (z.setPeriod period).2 = .ok () ∧
        (∀ p, period = some p → z.settings.isOnHold = true ∨ z.Accepts p.settings) ∨
      ∃ p e, period = some p ∧ z.settings.isOnHold = false ∧ ¬ z.Accepts p.settings ∧
        z.setPeriod period = ({ z with period }, .error e) := by
  cases period with
  | none => exact .inl ⟨rfl, nofun⟩
  | some p =>
      have hz : HasRightBlock { z with period := some p } := h.of_settings_eq rfl rfl
      cases hold : z.settings.isOnHold with
      | true => exact .inl ⟨by simp [setPeriod, hold], fun _ _ => .inl rfl⟩
      | false =>
          rcases apply_cases hz p.settings with ⟨hu, e, heq⟩ | ⟨t, e, hu, -, -, heq⟩
          · exact .inr ⟨p, e, rfl, rfl, fun ha => hu ⟨ha.setpoint, ha.economizer⟩,
              by simp [setPeriod, hold, heq]⟩
          · refine .inl ⟨by simp [setPeriod, hold, heq], fun p' hp => .inr ?_⟩
            cases hp
            exact ⟨hu.setpoint, hu.economizer⟩

/-- Whatever is done to a zone and to its economizer, a period is rejected exactly if the zone is
not on hold and does not accept its settings.  A zone that rejects a period remembers it all the
same and is as it was in everything else: its settings, its thermostat, its last verdict and its
economizer with all commands given so far. -/
theorem rejected_period {thermostat : Thermostat ν} {settings : ZoneSettings ν}
    {economizer : Option (Economizer ν)} {z : Zone ν}
    (h : create thermostat settings economizer = .ok z) (calls : List (SharedCall ν))
    (period : Option (PeriodSettings ν)) :
    ((∃ e, ((z.throughout calls).setPeriod period).2 = .error e) ↔
        ∃ p, period = some p ∧ (z.throughout calls).settings.isOnHold = false ∧
          ¬ (z.throughout calls).Accepts p.settings) ∧
      ∀ e, ((z.throughout calls).setPeriod period).2 = .error e →
        ((z.throughout calls).setPeriod period).1 = { z.throughout calls with period } := by
  have hblock := (isConsistent_create h).1.hasRightBlock.throughout calls
  rcases hblock.setPeriod_cases period with ⟨hok, htaken⟩ | ⟨p, e, hp, hold, hnot, heq⟩
  · refine ⟨⟨?_, ?_⟩, ?_⟩
    · rintro ⟨e, he⟩
      rw [hok] at he
      cases he
    · rintro ⟨p, hp, hold, hnot⟩
      rcases htaken p hp with htrue | hu
      · rw [hold] at htrue
        cases htrue
      · exact absurd hu hnot
    · intro e he
      rw [hok] at he
      cases he
  · rw [heq]
    exact ⟨⟨fun _ => ⟨p, hp, hold, hnot⟩, fun _ => ⟨e, rfl⟩⟩, fun _ _ => rfl⟩

/-- A den whose economizer has got a block of its own from someone else and then a warm reading.  It
rejects a night with too low a setpoint, and its economizer keeps the block. -/
theorem rejected_period_in_den :
    let calls : List (SharedCall Rat) :=
      [.zone (.settings { economizer := some (.ofTarget 3 19) }),
       .economizer (.settings (.ofTarget 1 20)),
       .zone (.sample (.ofEpoch 60 0) (.healthy (.ofEpoch 60 0) 25))]
    let night : PeriodSettings Rat := ⟨"night", { enabled := some false, setpoint := some 5 }⟩
    ∃ (thermostat : Thermostat Rat) (e : Economizer Rat) (den : Zone Rat),
      Thermostat.create "den" 20 .standard (PidSettings.ofGains 1 1 0 0) = .ok thermostat ∧
      Economizer.create "den" (.standard .cooling (.ofTarget 2 18)) ⟨"damper", [.cooling]⟩ = .ok e ∧
      create thermostat {} (some e) = .ok den ∧
      ((den.throughout calls).economizer.map fun e => e.settings.target) = some 20 ∧
      ∃ error, (den.throughout calls).setPeriod (some night) =
        ({ den.throughout calls with period := some night }, .error error) := by
  intro calls night
  have hruns : Outcome.holds (do
      let thermostat ← Thermostat.create "den" 20 .standard (PidSettings.ofGains 1 1 0 0)
      let e ← Economizer.create "den" (.standard .cooling (.ofTarget 2 18)) ⟨"damper", [.cooling]⟩
      let den ← create thermostat {} (some e)
      return (thermostat, e, den))
    (fun (_, _, den) =>
      ((den.throughout calls).economizer.map fun e => e.settings.target) == some 20 &&
      !((den.throughout calls).setPeriod (some night)).2.isOk) = true := by decide +kernel
  obtain ⟨⟨thermostat, e, den⟩, hbuilt, htest⟩ := Outcome.exists_of_holds hruns
  obtain ⟨_, hthermostat, hbuilt⟩ := Outcome.of_bind_eq_ok hbuilt
  obtain ⟨_, he, hbuilt⟩ := Outcome.of_bind_eq_ok hbuilt
  obtain ⟨_, hden, hbuilt⟩ := Outcome.of_bind_eq_ok hbuilt
  cases hbuilt
  obtain ⟨htarget, hrejected⟩ := Bool.and_eq_true_iff.mp htest
  refine ⟨_, _, _, hthermostat, he, hden, by simpa using htarget, ?_⟩
  have hkept := (rejected_period hden calls (some night)).2
  cases ha : (den.throughout calls).setPeriod (some night) with
  | mk z answer =>
      rw [ha] at hrejected hkept
      cases answer with
      | ok _ => cases hrejected
      | error error => exact ⟨error, by rw [← hkept error rfl]⟩

/-- A den that rejects a night is not as it was before: it remembers the night. -/
theorem night_is_remembered :
    let night : PeriodSettings Rat := ⟨"night", { setpoint := some 50 }⟩
    ∃ (thermostat : Thermostat Rat) (den : Zone Rat) (error : ZoneError Rat),
      Thermostat.create "den" 20 .standard (PidSettings.ofGains 1 0 0 0) = .ok thermostat ∧
      create thermostat {} none = .ok den ∧
      den.setPeriod (some night) = ({ den with period := some night }, .error error) ∧
      (den.setPeriod (some night)).1 ≠ den := by
  intro night
  have hruns : Outcome.holds (do
      let thermostat ← Thermostat.create "den" 20 .standard (PidSettings.ofGains 1 0 0 0)
      let den ← create thermostat {} none
      return (thermostat, den))
    (fun (_, den) => !(den.setPeriod (some night)).2.isOk) = true := by decide +kernel
  obtain ⟨⟨thermostat, den⟩, hbuilt, htest⟩ := Outcome.exists_of_holds hruns
  obtain ⟨_, hthermostat, hbuilt⟩ := Outcome.of_bind_eq_ok hbuilt
  obtain ⟨_, hden, hbuilt⟩ := Outcome.of_bind_eq_ok hbuilt
  cases hbuilt
  obtain ⟨hconsistent, -, hperiod⟩ := isConsistent_create hden
  rcases hconsistent.hasRightBlock.setPeriod_cases (some night) with
    ⟨hok, -⟩ | ⟨_, error, -, -, -, heq⟩
  · simp [hok, Except.isOk, Except.toBool] at htest
  · refine ⟨_, _, error, hthermostat, hden, heq, fun hsame => ?_⟩
    rw [heq] at hsame
    have hnone : some night = none := (congrArg Zone.period hsame).trans hperiod
    cases hnone

end Zone

end HomeClimate
