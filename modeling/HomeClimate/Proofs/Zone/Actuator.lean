import HomeClimate.Proofs.Zone.EconomizerCalls
import Mathlib.Data.List.Chain

/-!
# What the device of an economizer is told

Until the end the device is told to be on and to be off by turns, and the economizer is
active exactly if it was told to be on last.  It is active only while its settings want
outside air and both last readings have a value, and right after a reading neither may be
too old.  The end tells the device once more to be off, and from then on it is told
nothing.

Every command is an `Order` (`Economizer.orders`), to be on with the power that the
settings of the moment allow, or to be off.  It is the orders that take turns: one to be
on may well have no power, and then its command is that of an order to be off.  Devices
may refuse any of them; they were given all the same.
-/

namespace HomeClimate

variable {ν : Type} [Scalar ν]

/-- What a device is told: to be on or off, while the settings allow some power. -/
structure Order (ν : Type) where
  on : Bool
  power : ν

/-- The command to a device of a mode. -/
def Order.command (mode : Mode) (o : Order ν) : Command ν :=
  let power := if o.on then o.power else 0
  ⟨some mode, power, power⟩

namespace Economizer

/-! ## Orders -/

/-- What a call tells the device, if it makes the economizer give a command. -/
def told (e : Economizer ν) (call : EconomizerCall ν) : List (Order ν) :=
  if (e.after call).issued.length = e.issued.length then []
  else [⟨(e.after call).isActive, (e.after call).settings.maxPower⟩]

/-- What some calls tell the device. -/
def orders (e : Economizer ν) : List (EconomizerCall ν) → List (Order ν)
  | [] => []
  | call :: calls => e.told call ++ orders (e.after call) calls

/-- Between two states of an economizer its device was told nothing, or it was told to be what it
was not told to be before. -/
inductive Tells (e e' : Economizer ν) : Prop where
  | nothing : e'.actuator = e.actuator → e'.issued = e.issued → Tells e e'
  | order (on : Bool) : e.isClosed = false → e.actuator ≠ some on → e'.actuator = some on →
      e'.issued = e.issued ++ [e'.driveCommand on] → Tells e e'

theorem SameDevice.tells_drive {e e₁ : Economizer ν} (h : e.SameDevice e₁) (on : Bool) :
    e.Tells (e₁.drive on) := by
  rcases drive_cases e₁ on with ⟨-, heq⟩ | ⟨hc, ha, heq⟩
  · rw [heq]
    exact .nothing h.actuator h.issued
  · rw [heq]
    refine .order on (h.isClosed ▸ hc) (h.actuator ▸ ha) rfl ?_
    exact congrArg (· ++ [e₁.driveCommand on]) h.issued

/-- Every occasion tells the device at most one thing, and not what it was told before. -/
theorem Becomes.tells {e e' : Economizer ν} {o : Occasion} (h : e.Becomes o e') : e.Tells e' := by
  cases h with
  | off h _ =>
      rw [disable]
      refine SameDevice.tells_drive ?_ false
      exact ⟨h.actuator, h.issued, h.mode, h.timeout, h.isClosed⟩
  | withdrawal h _ => exact h.tells_drive false
  | decision h _ => exact h.tells_drive _
  | nothing h _ => exact .nothing h.actuator h.issued

theorem Becomes.mode {e e' : Economizer ν} {o : Occasion} (h : e.Becomes o e') :
    e'.mode = e.mode := by
  cases h with
  | off h _ => exact (drive_mode _ false).trans h.mode
  | withdrawal h _ => exact (drive_mode _ false).trans h.mode
  | decision h _ => exact (drive_mode _ _).trans h.mode
  | nothing h _ => exact h.mode

theorem Becomes.timeout {e e' : Economizer ν} {o : Occasion} (h : e.Becomes o e') :
    e'.timeout = e.timeout := by
  cases h with
  | off h _ => exact (drive_timeout _ false).trans h.timeout
  | withdrawal h _ => exact (drive_timeout _ false).trans h.timeout
  | decision h _ => exact (drive_timeout _ _).trans h.timeout
  | nothing h _ => exact h.timeout

/-! ## Before the end -/

/-- The device of an open economizer was given these orders, which take turns, and the last of them
is what it was last told to be. -/
structure Follows (e : Economizer ν) (mode : Mode) (orders : List (Order ν)) : Prop where
  ofMode : e.mode = mode
  isOpen : e.isClosed = false
  issued : e.issued = orders.map (Order.command mode)
  turns : (orders.map Order.on).IsChain (· ≠ ·)
  actuator : e.actuator = orders.getLast?.map Order.on

theorem IsNew.follows {e : Economizer ν} {setup : EconomizerSetup ν} (h : e.IsNew setup) :
    e.Follows setup.mode [] :=
  ⟨h.mode, h.isClosed, h.issued, .nil, h.actuator⟩

theorem Follows.after {e : Economizer ν} {mode : Mode} {orders : List (Order ν)}
    (h : e.Follows mode orders) {call : EconomizerCall ν} (hcall : call ≠ .close) :
    (e.after call).Follows mode (orders ++ e.told call) := by
  have hbecomes := e.becomes_after hcall
  have hmode := hbecomes.mode.trans h.ofMode
  have hopen := hbecomes.isClosed.trans h.isOpen
  cases hbecomes.tells with
  | nothing hactuator hissued =>
      -- `told` looks at how many commands there are, so no new one means no order.
      have htold : e.told call = [] := by rw [told, hissued, if_pos rfl]
      rw [htold, List.append_nil]
      exact ⟨hmode, hopen, hissued.trans h.issued, h.turns, hactuator.trans h.actuator⟩
  | order on _ hother hactuator hissued =>
      have hactive : (e.after call).isActive = on := by
        rw [isActive, hactuator]
        cases on <;> rfl
      have htold : e.told call = [⟨on, (e.after call).settings.maxPower⟩] := by
        rw [told, hissued, hactive, if_neg (by simp)]
      rw [htold]
      refine ⟨hmode, hopen, ?_, ?_, ?_⟩
      · rw [hissued, h.issued, List.map_append, driveCommand, hmode]
        rfl
      · rw [List.map_append, List.isChain_append]
        refine ⟨h.turns, .singleton _, fun last hlast next hnext => ?_⟩
        rw [List.getLast?_map, ← h.actuator] at hlast
        cases hnext
        exact fun heq => hother (hlast.trans (congrArg some heq))
      · rw [hactuator, List.getLast?_concat]
        rfl

theorem Follows.run {e : Economizer ν} {mode : Mode} {orders : List (Order ν)}
    (h : e.Follows mode orders) {calls : List (EconomizerCall ν)} (hcalls : .close ∉ calls) :
    (e.run calls).Follows mode (orders ++ e.orders calls) := by
  induction calls generalizing e orders with
  | nil => simpa [Economizer.orders] using h
  | cons call rest ih =>
      rw [List.mem_cons, not_or] at hcalls
      obtain ⟨hcall, hrest⟩ := hcalls
      rw [Economizer.orders, ← List.append_assoc]
      exact ih (h.after (Ne.symm hcall)) hrest

/-! ## After the end -/

/-- A closed economizer is told to be off. -/
def IsParked (e : Economizer ν) : Prop := e.isClosed = true ∧ e.isActive = false

/-- The end tells the device to be off. -/
theorem Follows.close {e : Economizer ν} {mode : Mode} {orders : List (Order ν)}
    (h : e.Follows mode orders) :
    e.close.IsParked ∧ e.close.issued = e.issued ++ [.off (some mode)] := by
  rw [Economizer.close, if_neg (by simp [h.isOpen]), h.ofMode]
  exact ⟨⟨rfl, rfl⟩, rfl⟩

/-- No call makes a closed economizer give a command. -/
theorem IsParked.after {e : Economizer ν} (h : e.IsParked) (call : EconomizerCall ν) :
    (e.after call).IsParked ∧ (e.after call).issued = e.issued := by
  by_cases hcall : call = .close
  · rw [hcall, Economizer.after, close_of_isClosed h.1]
    exact ⟨h, rfl⟩
  · have hbecomes := e.becomes_after hcall
    have hclosed := hbecomes.isClosed.trans h.1
    cases hbecomes.tells with
    | nothing hactuator hissued =>
        refine ⟨⟨hclosed, ?_⟩, hissued⟩
        rw [isActive, hactuator]
        exact h.2
    | order on hopen _ _ _ =>
        rw [h.1] at hopen
        cases hopen

theorem IsParked.run {e : Economizer ν} (h : e.IsParked) (calls : List (EconomizerCall ν)) :
    (e.run calls).IsParked ∧ (e.run calls).issued = e.issued := by
  induction calls generalizing e with
  | nil => exact ⟨h, rfl⟩
  | cons call rest ih =>
      obtain ⟨hparked, hissued⟩ := h.after call
      obtain ⟨hparked', hissued'⟩ := ih hparked
      exact ⟨hparked', hissued'.trans hissued⟩

/-! ## When a device is on -/

/-- What is so of an economizer after some calls: it is not active when it is closed or its settings
are off, its readings are the last that the calls brought, and it is active only if it has
both and neither has failed. -/
structure IsGuarded (e : Economizer ν) (calls : List (EconomizerCall ν)) : Prop where
  parks : e.isClosed = true → e.isActive = false
  enabled : e.isActive = true → e.settings.isEnabled = true
  indoor : ∀ i, e.indoor = some i →
    ∃ reading, EconomizerCall.lastIndoor? calls = some reading ∧ i = reading.attributed none
  ambient : ∀ a, e.ambient = some a → EconomizerCall.lastAmbient? calls = some a
  valued : e.isActive = true → ∃ i a, e.indoor = some i ∧ e.ambient = some a ∧
    i.isFailed = false ∧ a.isFailed = false

/-- An economizer that is active after a reading has a pair of readings. -/
theorem paired_after {e : Economizer ν} {call : EconomizerCall ν} {now : Instant}
    (hparks : e.isClosed = true → e.isActive = false) (hcall : call.now? = some now)
    (hactive : (e.after call).isActive = true) :
    ∃ indoor ambient, (e.after call).Paired now indoor ambient := by
  have hupdate : ∀ e₁ : Economizer ν, e.SameDevice e₁ → (e₁.update now).1.isActive = true →
      ∃ indoor ambient, (e₁.update now).1.Paired now indoor ambient := by
    intro e₁ hsame hon
    obtain ⟨hbecomes, hpaired⟩ := e₁.becomes_update now
    have hparks' : e₁.isClosed = true → e₁.isActive = false := by
      rw [hsame.isClosed, hsame.isActive_eq]
      exact hparks
    refine hpaired ?_
    cases ho : e₁.occasionAt now with
    | off =>
        rw [hbecomes.isActive_of_off hparks' (.inl ho)] at hon
        cases hon
    | withdrawal =>
        rw [hbecomes.isActive_of_off hparks' (.inr ho)] at hon
        cases hon
    | decision => exact .inl rfl
    | nothing => exact .inr rfl
  cases call with
  | indoor now' reading =>
      cases hcall
      exact hupdate _ ⟨rfl, rfl, rfl, rfl, rfl⟩ hactive
  | ambient now' reading =>
      cases hcall
      exact hupdate _ ⟨rfl, rfl, rfl, rfl, rfl⟩ hactive
  | settings s => cases hcall
  | suppress status => cases hcall
  | close => cases hcall

theorem IsNew.isGuarded {e : Economizer ν} {setup : EconomizerSetup ν} (h : e.IsNew setup) :
    e.IsGuarded [] := by
  have hinactive : e.isActive = false := by
    rw [isActive, h.actuator]
    rfl
  exact ⟨fun _ => hinactive, by simp [hinactive], by simp [h.indoor], by simp [h.ambient],
    by simp [hinactive]⟩

/-- No device goes on without a reading. -/
theorem isActive_of_after {e : Economizer ν} {call : EconomizerCall ν}
    (hparks : e.isClosed = true → e.isActive = false) (hcall : call.now? = none)
    (hactive : (e.after call).isActive = true) : e.isActive = true := by
  cases call with
  | indoor now reading => cases hcall
  | ambient now reading => cases hcall
  | settings s =>
      have hcall : EconomizerCall.settings s ≠ .close := nofun
      have hbecomes := e.becomes_after hcall
      cases ho : e.occasion (.settings s) with
      | nothing =>
          rw [ho] at hbecomes
          cases hbecomes with
          | nothing h _ => exact h.isActive_eq.symm.trans hactive
      | off =>
          rw [hbecomes.isActive_of_off hparks (.inl ho)] at hactive
          cases hactive
      | withdrawal => simp only [occasion] at ho; split at ho <;> cases ho
      | decision => simp only [occasion] at ho; split at ho <;> cases ho
  | suppress status => exact hactive
  | close =>
      have hoff : (e.after .close).isActive = false := isActive_close hparks
      rw [hoff] at hactive
      cases hactive

/-- An economizer that is active after a call has settings that want outside air, if it had them
before. -/
theorem IsGuarded.enabled_after {e : Economizer ν} {calls : List (EconomizerCall ν)}
    (h : e.IsGuarded calls) {call : EconomizerCall ν} (hcall : call ≠ .close)
    (hactive : (e.after call).isActive = true) : (e.after call).settings.isEnabled = true := by
  have hbecomes := e.becomes_after hcall
  have hinactive := fun ho => (hbecomes.isActive_of_off h.parks ho).symm.trans hactive
  cases ho : e.occasion call with
  | off => cases hinactive (.inl ho)
  | withdrawal => cases hinactive (.inr ho)
  | decision =>
      rw [ho] at hbecomes
      generalize e.after call = e' at hbecomes ⊢
      cases hbecomes with
      | decision _ hon => rw [drive_settings]; exact hon
  | nothing =>
      rw [ho] at hbecomes
      cases hbecomes with
      | nothing hagrees hon =>
          rcases hon with hon | hsame
          · exact hon
          · rw [hsame]
            exact h.enabled (hagrees.isActive_eq.symm.trans hactive)

theorem IsGuarded.after {e : Economizer ν} {calls : List (EconomizerCall ν)}
    (h : e.IsGuarded calls) (call : EconomizerCall ν) :
    (e.after call).IsGuarded (calls ++ [call]) := by
  refine ⟨fun hc => ?_, fun hactive => ?_, fun i hi => ?_, fun a ha => ?_, fun hactive => ?_⟩
  · by_cases hcall : call = .close
    · rw [hcall]
      exact isActive_close h.parks
    · have hbecomes := e.becomes_after hcall
      have hc' := hbecomes.isClosed.symm.trans hc
      exact ((show e.IsParked from ⟨hc', h.parks hc'⟩).after call).1.2
  · by_cases hcall : call = .close
    · have hoff : (e.after call).isActive = false := hcall ▸ isActive_close h.parks
      rw [hoff] at hactive
      cases hactive
    · exact h.enabled_after hcall hactive
  · rw [EconomizerCall.lastIndoor?_concat]
    rcases (e.noted_after call).1 with hforgot | hnoted
    · rw [hforgot] at hi
      cases hi
    · rw [hnoted] at hi
      cases hcall : call.indoor? with
      | some reading =>
          rw [hcall] at hi
          exact ⟨reading, rfl, (Option.some.inj hi).symm⟩
      | none =>
          rw [hcall] at hi
          exact h.indoor i hi
  · rw [EconomizerCall.lastAmbient?_concat]
    rcases (e.noted_after call).2 with hforgot | hnoted
    · rw [hforgot] at ha
      cases ha
    · rw [hnoted] at ha
      cases hcall : call.ambient? with
      | some reading =>
          rw [hcall] at ha
          exact ha
      | none =>
          rw [hcall] at ha
          exact h.ambient a ha
  · -- A reading that leaves the device on has just checked the pair; any other call leaves both
    -- readings as they were and cannot turn the device on.
    cases hnow : call.now? with
    | some now =>
        obtain ⟨indoor, ambient, hpaired⟩ := paired_after h.parks hnow hactive
        exact ⟨indoor, ambient, hpaired.inside, hpaired.outside, hpaired.insideHolds,
          hpaired.outsideHolds⟩
    | none =>
        obtain ⟨hindoor, hambient⟩ := e.readings_after hnow
        rw [hindoor, hambient]
        exact h.valued (isActive_of_after h.parks hnow hactive)

theorem IsGuarded.run {e : Economizer ν} {before : List (EconomizerCall ν)}
    (h : e.IsGuarded before) (calls : List (EconomizerCall ν)) :
    (e.run calls).IsGuarded (before ++ calls) := by
  induction calls generalizing e before with
  | nil => simpa using h
  | cons call rest ih => simpa using ih (h.after call)

/-- An economizer has its mode and its timeout for life. -/
theorem mode_timeout_run (e : Economizer ν) (calls : List (EconomizerCall ν)) :
    (e.run calls).mode = e.mode ∧ (e.run calls).timeout = e.timeout := by
  induction calls generalizing e with
  | nil => exact ⟨rfl, rfl⟩
  | cons call rest ih =>
      have hafter : (e.after call).mode = e.mode ∧ (e.after call).timeout = e.timeout := by
        by_cases hcall : call = .close
        · rw [hcall, Economizer.after, close]
          split <;> exact ⟨rfl, rfl⟩
        · exact ⟨(e.becomes_after hcall).mode, (e.becomes_after hcall).timeout⟩
      obtain ⟨hmode, htimeout⟩ := ih (e.after call)
      exact ⟨hmode.trans hafter.1, htimeout.trans hafter.2⟩

theorem mode_run (e : Economizer ν) (calls : List (EconomizerCall ν)) :
    (e.run calls).mode = e.mode :=
  (e.mode_timeout_run calls).1

theorem timeout_run (e : Economizer ν) (calls : List (EconomizerCall ν)) :
    (e.run calls).timeout = e.timeout :=
  (e.mode_timeout_run calls).2

/-! ## The whole life of a device -/

/-- What is so of the device of an economizer of a mode and a timeout after some calls. -/
structure DrivesSafely (e : Economizer ν) (mode : Mode) (timeout : Span)
    (calls : List (EconomizerCall ν)) : Prop where
  /-- Before the end the commands are the orders. -/
  issued : .close ∉ calls → (e.run calls).issued = (e.orders calls).map (Order.command mode)
  /-- They take turns. -/
  turns : .close ∉ calls → ((e.orders calls).map Order.on).IsChain (· ≠ ·)
  /-- The economizer is active exactly if there was an order and the last one was to be on. -/
  isActive : .close ∉ calls →
    ((e.run calls).isActive = true ↔ (e.orders calls).getLast?.map Order.on = some true)
  /-- An economizer is active only if its settings want outside air. -/
  enabled : (e.run calls).isActive = true → (e.run calls).settings.isEnabled = true
  /-- And only if there are last readings inside and outside and neither has failed. -/
  valued : (e.run calls).isActive = true → ∃ indoor ambient,
    EconomizerCall.lastIndoor? calls = some indoor ∧
    EconomizerCall.lastAmbient? calls = some ambient ∧
    indoor.isFailed = false ∧ ambient.isFailed = false
  /-- Right after a reading neither may be too old by the clock. -/
  fresh : ∀ before call now, calls = before ++ [call] → call.now? = some now →
    (e.run calls).isActive = true → ∃ indoor ambient,
      EconomizerCall.lastIndoor? calls = some indoor ∧
      EconomizerCall.lastAmbient? calls = some ambient ∧
      ∀ reading, reading = indoor ∨ reading = ambient →
        reading.time.IsWithin timeout now ∧
        (now.IsPlain → reading.time.IsPlain → now.isRepresentable = true →
          reading.time.isRepresentable = true → now.spanSince reading.time ≤ timeout)
  /-- The end is one command more, to be off, and the last one. -/
  ended : ∀ before later, calls = before ++ .close :: later → .close ∉ before →
    (e.run calls).issued = (e.run before).issued ++ [.off (some mode)] ∧
      (e.run calls).isActive = false

/-- Whatever is done to an economizer, in any order, its device is driven safely. -/
theorem drivesSafely {name : String} {setup : EconomizerSetup ν} {device : Device}
    {e : Economizer ν} (hcreate : create name setup device = .ok e)
    (calls : List (EconomizerCall ν)) : e.DrivesSafely setup.mode setup.timeout calls := by
  have hnew := isNew_create hcreate
  have hguarded := hnew.isGuarded.run calls
  rw [List.nil_append] at hguarded
  have hfollows : ∀ before : List (EconomizerCall ν), .close ∉ before →
      (e.run before).Follows setup.mode (e.orders before) :=
    fun before hopen => hnew.follows.run hopen
  exact {
    issued := fun hopen => (hfollows calls hopen).issued
    turns := fun hopen => (hfollows calls hopen).turns
    isActive := fun hopen => by
      rw [Economizer.isActive, (hfollows calls hopen).actuator, beq_iff_eq]
    enabled := hguarded.enabled
    valued := fun hactive => by
      obtain ⟨i, a, hi, ha, hiv, hav⟩ := hguarded.valued hactive
      obtain ⟨reading, hlast, rfl⟩ := hguarded.indoor i hi
      exact ⟨reading, a, hlast, hguarded.ambient a ha, hiv, hav⟩
    fresh := fun before call now heq hnow hactive => by
      have hbefore := hnew.isGuarded.run before
      have hrun : e.run calls = (e.run before).after call := by
        rw [heq, run_append, run_cons, run_nil]
      have htimeout := (timeout_run e calls).trans hnew.timeout
      rw [hrun] at hactive htimeout
      obtain ⟨indoor, ambient, hpaired⟩ := paired_after hbefore.parks hnow hactive
      rw [hrun] at hguarded
      obtain ⟨reading, hlast, rfl⟩ := hguarded.indoor indoor hpaired.inside
      refine ⟨reading, ambient, hlast, hguarded.ambient ambient hpaired.outside, ?_⟩
      have hindoor := hpaired.insideWithin
      have hambient := hpaired.outsideWithin
      rw [htimeout] at hindoor hambient
      intro r hr
      rcases hr with rfl | rfl
      · exact ⟨hindoor, hindoor.spanSince_le⟩
      · exact ⟨hambient, hambient.spanSince_le⟩
    ended := fun before later heq hopen => by
      obtain ⟨hparked, hissued⟩ := (hfollows before hopen).close
      obtain ⟨hparked', hissued'⟩ := hparked.run later
      have hrun : e.run calls = (e.run before).close.run later := by
        rw [heq, run_append, run_cons, Economizer.after]
      rw [hrun]
      exact ⟨hissued'.trans hissued, hparked'.2⟩ }

/-- It gets warm inside, the sensor outside fails and comes back, and then the end comes. -/
theorem drivesSafely_of_damper :
    let setup : EconomizerSetup Rat := .standard .cooling (.ofTarget 2 18)
    let calls : List (EconomizerCall Rat) :=
      [.indoor (.ofEpoch 60 0) (.healthy (.ofEpoch 60 0) 25),
       .ambient (.ofEpoch 61 0) (.healthy (.ofEpoch 61 0) 15),
       .ambient (.ofEpoch 62 0) (.failure (.ofEpoch 62 0) none (.sensor "frozen")),
       .ambient (.ofEpoch 63 0) (.healthy (.ofEpoch 63 0) 14)]
    ∃ e : Economizer Rat, create "den" setup ⟨"damper", [.cooling]⟩ = .ok e ∧
      (e.orders calls).map Order.on = [false, true, false, true] ∧ (e.run calls).isActive = true ∧
      e.DrivesSafely .cooling (Span.seconds 90) (calls ++ [.close]) := by
  intro setup calls
  have hruns : Outcome.holds (create "den" setup ⟨"damper", [.cooling]⟩) (fun e =>
      (e.orders calls).map Order.on == [false, true, false, true] && (e.run calls).isActive) = true := by
    decide +kernel
  obtain ⟨e, he, htest⟩ := Outcome.exists_of_holds hruns
  obtain ⟨horders, hactive⟩ := Bool.and_eq_true_iff.mp htest
  exact ⟨e, he, by simpa using horders, hactive, drivesSafely he (calls ++ [EconomizerCall.close])⟩

end Economizer

end HomeClimate
