import HomeClimate.Proofs.Zone.Actuator

/-!
# The power that a device runs at

The settings of an economizer say how much power its device may have.  They are looked at
when the device is switched on, and only then: a device that is on is told nothing while
it stays on, whatever becomes of its settings in the meantime.

So a device that is on runs at the power that was set when it was switched on
(`Economizer.IsOnSince`), which is the power that is set now unless other settings came
since.  A device that is off runs at none (`lastCommand_of_run`).  Settings with less power
do not slow a device down that is on (`full_power_of_half`); they count from the next time
that it is switched on.
-/

namespace HomeClimate

variable {ν : Type} [Scalar ν]

namespace Economizer

/-! ## Settings over many calls -/

/-- The settings after a call are those before it, or the call brought them. -/
theorem settings_after (e : Economizer ν) (call : EconomizerCall ν) :
    (e.after call).settings = e.settings ∨ call = .settings (e.after call).settings := by
  cases call with
  | indoor now reading => exact .inl (by simp [after, recordIndoor])
  | ambient now reading => exact .inl (by simp [after, recordAmbient])
  | settings s =>
      rw [after]
      cases hs : e.setSettings s with
      | error f => exact .inl rfl
      | ok e' => exact .inr (congrArg _ (setSettings_settings hs).2.symm)
  | suppress status => exact .inl rfl
  | close => exact .inl (close_settings e)

theorem maxPower_run {e : Economizer ν} {power : ν} (h : e.settings.maxPower = power)
    {calls : List (EconomizerCall ν)} (hcalls : ∀ s, .settings s ∈ calls → s.maxPower = power) :
    (e.run calls).settings.maxPower = power := by
  induction calls generalizing e with
  | nil => exact h
  | cons call rest ih =>
      refine ih ?_ fun s hs => hcalls s (List.mem_cons_of_mem _ hs)
      rcases e.settings_after call with hsame | hcall
      · rw [hsame]
        exact h
      · exact hcalls _ (hcall ▸ List.mem_cons_self)

/-! ## Off -/

/-- A device that is off was told to run at no power, if it was told anything. -/
def RestsWhenOff (e : Economizer ν) : Prop :=
  e.isActive = false → ∀ c, e.lastCommand? = some c → c.demand = 0 ∧ c.fanSpeed = 0

theorem IsNew.restsWhenOff {e : Economizer ν} {setup : EconomizerSetup ν} (h : e.IsNew setup) :
    e.RestsWhenOff := by
  intro _ c hc
  rw [lastCommand?, h.issued] at hc
  cases hc

theorem RestsWhenOff.after {e : Economizer ν} (h : e.RestsWhenOff) (call : EconomizerCall ν) :
    (e.after call).RestsWhenOff := by
  by_cases hcall : call = .close
  · rw [hcall, Economizer.after, close]
    split
    · exact h
    · intro _ c hc
      rw [lastCommand?, issue, List.getLast?_concat] at hc
      cases hc
      exact ⟨rfl, rfl⟩
  · intro hoff c hc
    cases (e.becomes_after hcall).tells with
    | nothing hactuator hissued =>
        rw [isActive, hactuator] at hoff
        rw [lastCommand?, hissued] at hc
        exact h hoff c hc
    | order on _ _ hactuator hissued =>
        rw [lastCommand?, hissued, List.getLast?_concat] at hc
        cases hc
        cases on with
        | true =>
            rw [isActive, hactuator] at hoff
            cases hoff
        | false => exact ⟨rfl, rfl⟩

theorem RestsWhenOff.run {e : Economizer ν} (h : e.RestsWhenOff)
    (calls : List (EconomizerCall ν)) : (e.run calls).RestsWhenOff := by
  induction calls generalizing e with
  | nil => exact h
  | cons call rest ih => exact ih (h.after call)

/-! ## On -/

/-- The command to run at some power. -/
def runCommand (e : Economizer ν) (power : ν) : Command ν := ⟨some e.mode, power, power⟩

/-- A reading switched the device of an economizer on, at the power that was set then, and it has
been on through all calls since and was told nothing else. -/
structure IsOnSince (e : Economizer ν) (before : List (EconomizerCall ν))
    (call : EconomizerCall ν) (since : List (EconomizerCall ν)) : Prop where
  reading : call.now?.isSome = true
  off : (e.run before).isActive = false
  on : ∀ later, later <+: since → (e.run (before ++ call :: later)).isActive = true
  issued : (e.run (before ++ call :: since)).issued =
    (e.run before).issued ++ [e.runCommand (e.run before).settings.maxPower]

/-- A reading that turns the device on does so at the power that is set. -/
theorem isOnSince_nil {e : Economizer ν} {before : List (EconomizerCall ν)}
    {call : EconomizerCall ν}
    (hparks : (e.run before).isClosed = true → (e.run before).isActive = false)
    (hoff : (e.run before).isActive = false)
    (hactive : ((e.run before).after call).isActive = true)
    (hissued : ((e.run before).after call).issued =
      (e.run before).issued ++ [((e.run before).after call).driveCommand true])
    (hmode : ((e.run before).after call).mode = e.mode) : e.IsOnSince before call [] := by
  have hrun : e.run (before ++ [call]) = (e.run before).after call := by simp
  have hreading : call.now?.isSome = true := by
    cases hnow : call.now? with
    | none =>
        rw [isActive_of_after hparks hnow hactive] at hoff
        cases hoff
    | some now => rfl
  have hsettings : ((e.run before).after call).settings = (e.run before).settings := by
    rcases (e.run before).settings_after call with hsame | hcall
    · exact hsame
    · rw [hcall] at hreading
      cases hreading
  refine ⟨hreading, hoff, fun later hlater => ?_, ?_⟩
  · rw [List.prefix_nil.mp hlater, hrun]
    exact hactive
  · rw [hrun, hissued, driveCommand, hmode, hsettings]
    rfl

/-- A call that tells a device nothing leaves it on as it was. -/
theorem IsOnSince.concat {e : Economizer ν} {before since : List (EconomizerCall ν)}
    {call last : EconomizerCall ν} (h : e.IsOnSince before call since)
    (hactive : (e.run (before ++ call :: (since ++ [last]))).isActive = true)
    (hissued : (e.run (before ++ call :: (since ++ [last]))).issued =
      (e.run (before ++ call :: since)).issued) :
    e.IsOnSince before call (since ++ [last]) := by
  refine ⟨h.reading, h.off, fun later hlater => ?_, hissued.trans h.issued⟩
  rcases List.prefix_concat_iff.mp hlater with rfl | hlater
  · exact hactive
  · exact h.on later hlater

/-- A device that is on was switched on by some reading. -/
theorem IsNew.exists_isOnSince {e : Economizer ν} {setup : EconomizerSetup ν} (h : e.IsNew setup)
    {calls : List (EconomizerCall ν)} (hactive : (e.run calls).isActive = true) :
    ∃ before call since, calls = before ++ call :: since ∧ e.IsOnSince before call since := by
  induction calls using List.reverseRecOn with
  | nil =>
      rw [run_nil, isActive, h.actuator] at hactive
      cases hactive
  | append_singleton calls last ih =>
      have hparks := (h.isGuarded.run calls).parks
      have hrun : e.run (calls ++ [last]) = (e.run calls).after last := by simp
      rw [hrun] at hactive
      have hlast : last ≠ .close := by
        rintro rfl
        rw [Economizer.after, isActive_close hparks] at hactive
        cases hactive
      have hbecomes := (e.run calls).becomes_after hlast
      cases hbecomes.tells with
      | nothing hactuator hissued =>
          have hbefore : (e.run calls).isActive = true := by
            rw [isActive, ← hactuator]
            exact hactive
          obtain ⟨before, call, since, rfl, hsince⟩ := ih hbefore
          rw [List.append_assoc, List.cons_append] at hrun ⊢
          refine ⟨before, call, since ++ [last], rfl, hsince.concat ?_ ?_⟩
          · rw [hrun]
            exact hactive
          · rw [hrun]
            exact hissued
      | order on _ hother hactuator hissued =>
          rw [isActive, hactuator] at hactive
          cases on with
          | false => cases hactive
          | true =>
              have hoff : (e.run calls).isActive = false := by simpa [isActive] using hother
              refine ⟨calls, last, [], rfl, isOnSince_nil hparks hoff ?_ hissued ?_⟩
              · rw [isActive, hactuator]
                rfl
              · exact hbecomes.mode.trans (mode_run e calls)

/-! ## The last command -/

theorem IsOnSince.lastCommand? {e : Economizer ν} {before since : List (EconomizerCall ν)}
    {call : EconomizerCall ν} (h : e.IsOnSince before call since) :
    (e.run (before ++ call :: since)).lastCommand? =
      some (e.runCommand (e.run before).settings.maxPower) := by
  rw [Economizer.lastCommand?, h.issued, List.getLast?_concat]

/-- The power that is set stays what it was when the device was switched on, unless settings with
another one come. -/
theorem IsOnSince.maxPower {e : Economizer ν} {before since : List (EconomizerCall ν)}
    {call : EconomizerCall ν} (h : e.IsOnSince before call since)
    (hsame : ∀ s, .settings s ∈ since → s.maxPower = (e.run before).settings.maxPower) :
    (e.run (before ++ call :: since)).settings.maxPower = (e.run before).settings.maxPower := by
  rw [run_append, run_cons]
  refine maxPower_run ?_ hsame
  rcases (e.run before).settings_after call with hkept | hcall
  · rw [hkept]
  · have hreading := h.reading
    rw [hcall] at hreading
    cases hreading

/-- Whatever is done to an economizer, its device was told nothing and is off, or it is off and was
last told to run at no power, or it is on and was last told to run at the power that was set when it
was switched on.  This is the power that is set now, unless settings with another one came since. -/
theorem lastCommand_of_run {name : String} {setup : EconomizerSetup ν} {device : Device}
    {e : Economizer ν} (hcreate : create name setup device = .ok e)
    (calls : List (EconomizerCall ν)) :
    ((e.run calls).lastCommand? = none → (e.run calls).isActive = false) ∧
      (∀ c, (e.run calls).lastCommand? = some c → (e.run calls).isActive = false →
        c.demand = 0 ∧ c.fanSpeed = 0) ∧
      ((e.run calls).isActive = true → ∃ before call since,
        let power := (e.run before).settings.maxPower
        calls = before ++ call :: since ∧ e.IsOnSince before call since ∧
        (e.run calls).lastCommand? = some ⟨some setup.mode, power, power⟩ ∧
        ((∀ s, .settings s ∈ since → s.maxPower = power) →
          (e.run calls).settings.maxPower = power)) := by
  have hnew := isNew_create hcreate
  refine ⟨fun hnone => ?_, fun c hc hoff => hnew.restsWhenOff.run calls hoff c hc,
    fun hactive => ?_⟩
  · by_contra hactive
    obtain ⟨before, call, since, rfl, hsince⟩ :=
      hnew.exists_isOnSince (Bool.not_eq_false _ ▸ hactive)
    rw [hsince.lastCommand?] at hnone
    cases hnone
  · obtain ⟨before, call, since, rfl, hsince⟩ := hnew.exists_isOnSince hactive
    refine ⟨before, call, since, rfl, hsince, ?_, hsince.maxPower⟩
    rw [hsince.lastCommand?, runCommand, hnew.mode]

/-- A damper is at full power when settings with half of it come.  The sensor inside fails and comes
back, and from then on the damper runs at half its power. -/
theorem lastCommand_of_run_of_damper :
    let setup : EconomizerSetup Rat := .standard .cooling (.ofTarget 1 22)
    let half : EconomizerSettings Rat := { setup.settings with maxPower := 1 / 2 }
    let calls : List (EconomizerCall Rat) :=
      [.ambient (.ofEpoch 0 0) (.healthy (.ofEpoch 0 0) 15),
       .indoor (.ofEpoch 10 0) (.healthy (.ofEpoch 10 0) 25), .settings half,
       .indoor (.ofEpoch 20 0) (.failure (.ofEpoch 20 0) none (.sensor "gone")),
       .indoor (.ofEpoch 30 0) (.healthy (.ofEpoch 30 0) 25)]
    ∃ e : Economizer Rat, create "den" setup ⟨"damper", [.cooling]⟩ = .ok e ∧
      (e.run calls).isActive = true ∧
      (e.run calls).lastCommand? = some ⟨some .cooling, 1 / 2, 1 / 2⟩ ∧
      ∃ before call since, calls = before ++ call :: since ∧ e.IsOnSince before call since ∧
        (e.run before).settings.maxPower = 1 / 2 := by
  intro setup half calls
  have hruns : Outcome.holds (create "den" setup ⟨"damper", [.cooling]⟩) (fun e =>
      (e.run calls).isActive &&
        (e.run calls).lastCommand?.any fun c => c.demand == 1 / 2) = true := by decide +kernel
  obtain ⟨e, he, htest⟩ := Outcome.exists_of_holds hruns
  simp only [Bool.and_eq_true, Option.any_eq_true, beq_iff_eq] at htest
  obtain ⟨hactive, c, hc, hdemand⟩ := htest
  obtain ⟨before, call, since, hcalls, hsince, hlast, -⟩ :=
    (lastCommand_of_run he calls).2.2 hactive
  rw [hlast] at hc
  cases hc
  have hpower : (e.run before).settings.maxPower = 1 / 2 := hdemand
  rw [hpower] at hlast
  exact ⟨e, he, hactive, hlast, before, call, since, hcalls, hsince, hpower⟩

/-- Right after the settings with half the power have come, the damper is still told to run at full
power. -/
theorem full_power_of_half :
    let setup : EconomizerSetup Rat := .standard .cooling (.ofTarget 1 22)
    let half : EconomizerSettings Rat := { setup.settings with maxPower := 1 / 2 }
    let calls : List (EconomizerCall Rat) :=
      [.ambient (.ofEpoch 0 0) (.healthy (.ofEpoch 0 0) 15),
       .indoor (.ofEpoch 10 0) (.healthy (.ofEpoch 10 0) 25), .settings half]
    ∃ (e : Economizer Rat) (c : Command Rat), create "den" setup ⟨"damper", [.cooling]⟩ = .ok e ∧
      (e.run calls).isActive = true ∧ (e.run calls).settings.maxPower = 1 / 2 ∧
      (e.run calls).lastCommand? = some c ∧ c.demand = 1 ∧ c.fanSpeed = 1 := by
  intro setup half calls
  have hruns : Outcome.holds (create "den" setup ⟨"damper", [.cooling]⟩) (fun e =>
      (e.run calls).isActive && (e.run calls).settings.maxPower == 1 / 2 &&
        (e.run calls).lastCommand?.any fun c => c.demand == 1 && c.fanSpeed == 1) = true := by
    decide +kernel
  obtain ⟨e, he, htest⟩ := Outcome.exists_of_holds hruns
  simp only [Bool.and_eq_true, Option.any_eq_true, beq_iff_eq] at htest
  obtain ⟨⟨hactive, hpower⟩, c, hc, hdemand, hfan⟩ := htest
  exact ⟨e, c, he, hactive, hpower, hc, hdemand, hfan⟩

end Economizer

end HomeClimate
