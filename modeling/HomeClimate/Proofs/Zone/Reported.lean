import HomeClimate.Proofs.Zone.EconomizerCalls

/-!
# What the status of an economizer says of its device

The status is written by decisions, and by settings that want no outside air.  The device
goes off also when the readings do not make a pair and at the end, and then the status
is left as it is: the device was *withdrawn* from it (`Economizer.isWithdrawn`).  A
reading does that exactly if outside air is wanted and there is no pair
(`Economizer.occasionAt_eq_withdrawal_iff`).

So the status is right about the device until the device is withdrawn, and again from the
next decision on, if the end has not come (`status_of_run`).  In between it may ask for
outside air while the device is off (`calls_while_withdrawn`), but never the other way
round.
-/

namespace HomeClimate

variable {ν : Type} [Scalar ν]

namespace Economizer

/-! ## Readings that do not make a pair -/

omit [Scalar ν] in
theorem isStale_of_isWithin {e : Economizer ν} {now : Instant} {reading : Signal ν}
    (h : reading.time.IsWithin e.timeout now) : e.isStale now reading = false := by
  rw [isStale]
  cases hlimit : e.timeout.toDifference?.bind now.sub? with
  | none => rfl
  | some limit => exact decide_eq_false (Instant.not_lt.mpr (h limit hlimit))

theorem Paired.value?_combine {e : Economizer ν} {now : Instant} {indoor ambient : Signal ν}
    (h : e.Paired now indoor ambient) : ∃ v, (e.combine now).2.value? = some v := by
  have hstale : (e.isStale now indoor || e.isStale now ambient) = false :=
    Bool.or_eq_false_iff.mpr
      ⟨isStale_of_isWithin h.insideWithin, isStale_of_isWithin h.outsideWithin⟩
  have hindoor := h.insideHolds
  have hambient := h.outsideHolds
  rw [combine, h.inside, h.outside]
  dsimp only
  rw [hstale]
  obtain ⟨time, source, health⟩ := indoor
  obtain ⟨time', source', health'⟩ := ambient
  cases health with
  | totalFailure error => cases hindoor
  | ok v =>
      cases health' with
      | totalFailure error => cases hambient
      | ok v' => exact ⟨_, rfl⟩
      | partialFailure v' error => exact ⟨_, rfl⟩
  | partialFailure v error =>
      cases health' with
      | totalFailure error => cases hambient
      | ok v' => exact ⟨_, rfl⟩
      | partialFailure v' error => exact ⟨_, rfl⟩

/-- A reading withdraws the device exactly if outside air is wanted and the readings do not make a
pair. -/
theorem occasionAt_eq_withdrawal_iff {e : Economizer ν} {now : Instant} :
    e.occasionAt now = .withdrawal ↔
      e.settings.isEnabled = true ∧ ¬ ∃ indoor ambient, e.Paired now indoor ambient := by
  rw [occasionAt]
  by_cases hs : e.settings.isEnabled = true
  · rw [if_pos hs]
    cases hv : (e.combine now).2.value? with
    | none =>
        refine ⟨fun _ => ⟨hs, ?_⟩, fun _ => rfl⟩
        rintro ⟨indoor, ambient, hpaired⟩
        obtain ⟨v, hv'⟩ := hpaired.value?_combine
        rw [hv] at hv'
        cases hv'
    | some signal =>
        constructor
        · intro h
          dsimp only at h
          split at h
          · cases h
          · split at h <;> cases h
        · rintro ⟨-, hnot⟩
          rcases e.combine_cases now with ⟨hnone, -⟩ | ⟨-, hpaired⟩
          · rw [hv] at hnone
            cases hnone
          · exact absurd hpaired hnot
  · rw [if_neg hs]
    simp [hs]

/-! ## Withdrawals -/

/-- Whether the device is withdrawn from the status after an occasion, as it was or was not before.
When the end has come it is so for good. -/
def withdraws (o : Occasion) (isClosed withdrawn : Bool) : Bool :=
  match o with
  | .withdrawal => true
  | .nothing => withdrawn
  | .off => isClosed
  | .decision => isClosed

/-- Whether the device is withdrawn from the status after some calls. -/
def withdrawnAfter (e : Economizer ν) (withdrawn : Bool) : List (EconomizerCall ν) → Bool
  | [] => withdrawn
  | call :: calls =>
    (e.after call).withdrawnAfter (withdraws (e.occasion call) e.isClosed withdrawn) calls

/-- Whether the device of a new economizer is withdrawn from the status after some calls. -/
def isWithdrawn (e : Economizer ν) (calls : List (EconomizerCall ν)) : Bool :=
  e.withdrawnAfter false calls

/-- The device is on exactly if the status asks for that and the device is not withdrawn, which it is
for good at the end.  A status under settings that want no outside air asks for nothing. -/
structure Reports (e : Economizer ν) (withdrawn : Bool) : Prop where
  isActive : e.isActive = (e.status.calling && !withdrawn)
  closed : e.isClosed = true → withdrawn = true
  off : e.settings.isEnabled = false → e.status.demand = 0 ∧ e.status.calling = false

theorem IsNew.reports {e : Economizer ν} {setup : EconomizerSetup ν} (h : e.IsNew setup) :
    e.Reports false := by
  refine ⟨?_, fun hc => ?_, fun _ => ⟨h.demand, h.calling⟩⟩
  · rw [Economizer.isActive, h.actuator, h.calling]
    rfl
  · rw [h.isClosed] at hc
    cases hc

theorem Reports.parks {e : Economizer ν} {withdrawn : Bool} (h : e.Reports withdrawn) :
    e.isClosed = true → e.isActive = false := by
  intro hc
  rw [h.isActive, h.closed hc]
  simp

@[simp] theorem drive_status (e : Economizer ν) (on : Bool) : (e.drive on).status = e.status := by
  rw [drive]
  split <;> rfl

/-- What an occasion makes of what the status says. -/
theorem Reports.becomes {e e' : Economizer ν} {withdrawn : Bool} {o : Occasion}
    (h : e.Reports withdrawn) (hbecomes : e.Becomes o e') :
    e'.Reports (withdraws o e.isClosed withdrawn) := by
  have hclosed := hbecomes.isClosed
  cases hbecomes with
  | off hsame hoff =>
      have hinactive := (Becomes.off hsame hoff).isActive_of_off h.parks (.inl rfl)
      refine ⟨?_, fun hc => hclosed.symm.trans hc, fun _ => ?_⟩
      · rw [hinactive]
        simp [disable]
      · simp [disable]
  | withdrawal hagrees hset =>
      -- The device goes off and the status stays: here the two come apart.
      have hinactive := hagrees.isActive_drive_false h.parks
      refine ⟨?_, fun _ => rfl, fun hoff => ?_⟩
      · rw [hinactive]
        simp [withdraws]
      · rw [drive_settings, hset] at hoff
        rw [drive_status, hagrees.demand, hagrees.calling]
        exact h.off hoff
  | @decision e₁ hsame hon =>
      refine ⟨?_, fun hc => hclosed.symm.trans hc, fun hoff => ?_⟩
      · rw [isActive_drive, hsame.isClosed, hsame.isActive_eq, drive_status]
        -- The status follows the decision also after the end, when the device does not.
        cases hc : e.isClosed with
        | true => simp [withdraws, h.parks hc]
        | false => simp [withdraws]
      · rw [drive_settings, hon] at hoff
        cases hoff
  | nothing hagrees hon =>
      refine ⟨?_, fun hc => h.closed (hclosed.symm.trans hc), fun hoff => ?_⟩
      · rw [hagrees.isActive_eq, hagrees.calling]
        exact h.isActive
      · rw [hagrees.demand, hagrees.calling]
        rcases hon with hon | hset
        · rw [hon] at hoff
          cases hoff
        · exact h.off (hset ▸ hoff)

/-- The end leaves the status alone. -/
theorem Reports.close {e : Economizer ν} {withdrawn : Bool} (h : e.Reports withdrawn) :
    e.close.Reports true := by
  have hinactive := isActive_close h.parks
  have hstatus : e.close.status = e.status := by
    rw [Economizer.close]
    split <;> rfl
  refine ⟨?_, fun _ => rfl, fun hoff => ?_⟩
  · rw [hinactive]
    simp
  · rw [close_settings] at hoff
    rw [hstatus]
    exact h.off hoff

theorem Reports.after {e : Economizer ν} {withdrawn : Bool} (h : e.Reports withdrawn)
    (call : EconomizerCall ν) :
    (e.after call).Reports (withdraws (e.occasion call) e.isClosed withdrawn) := by
  by_cases hcall : call = .close
  · rw [hcall]
    exact h.close
  · exact h.becomes (e.becomes_after hcall)

theorem Reports.run {e : Economizer ν} {withdrawn : Bool} (h : e.Reports withdrawn)
    (calls : List (EconomizerCall ν)) :
    (e.run calls).Reports (e.withdrawnAfter withdrawn calls) := by
  induction calls generalizing e withdrawn with
  | nil => exact h
  | cons call rest ih => exact ih (h.after call)

/-! ## What a zone is told -/

/-- What the status of an economizer says of its device, whatever was done to the economizer. -/
theorem status_of_run {name : String} {setup : EconomizerSetup ν} {device : Device}
    {e : Economizer ν} (hcreate : create name setup device = .ok e)
    (calls : List (EconomizerCall ν)) :
    ((e.run calls).status.calling = (e.run calls).isActive ↔
        ¬ ((e.run calls).status.calling = true ∧ e.isWithdrawn calls = true)) ∧
      ((e.run calls).isActive = true → (e.run calls).status.calling = true) ∧
      ((e.run calls).settings.isEnabled = false → (e.run calls).status.demand = 0 ∧
        (e.run calls).status.calling = false ∧ (e.run calls).isActive = false) ∧
      ∀ zone shown, ((e.run calls).suppress zone).value? = some shown →
        shown.economizer = some (e.run calls).status := by
  have hreports := (isNew_create hcreate).reports.run calls
  have hactive := hreports.isActive
  rw [← isWithdrawn] at hactive
  refine ⟨?_, fun hon => ?_, fun hoff => ?_, fun zone shown hshown => ?_⟩
  · rw [hactive]
    cases (e.run calls).status.calling <;> cases e.isWithdrawn calls <;> simp
  · rw [hactive] at hon
    exact (Bool.and_eq_true_iff.mp hon).1
  · obtain ⟨hdemand, hcalling⟩ := hreports.off hoff
    refine ⟨hdemand, hcalling, ?_⟩
    rw [hactive, hcalling]
    rfl
  · rw [suppress, Signal.value?, Signal.map, Health.value?_map] at hshown
    obtain ⟨status, -, rfl⟩ := Option.map_eq_some_iff.mp hshown
    rfl

/-- The sensor inside fails while the device is on, and it comes back. -/
theorem status_of_run_in_den :
    let setup : EconomizerSetup Rat := .standard .cooling (.ofTarget 1 22)
    let calls : List (EconomizerCall Rat) :=
      [.ambient (.ofEpoch 0 0) (.healthy (.ofEpoch 0 0) 15),
       .indoor (.ofEpoch 10 0) (.healthy (.ofEpoch 10 0) 25),
       .indoor (.ofEpoch 20 0) (.failure (.ofEpoch 20 0) none (.sensor "gone")),
       .indoor (.ofEpoch 30 0) (.healthy (.ofEpoch 30 0) 25)]
    ∃ e : Economizer Rat, create "den" setup ⟨"damper", [.cooling]⟩ = .ok e ∧
      e.isWithdrawn calls = false ∧ (e.run calls).isActive = true ∧
      (e.run calls).status.calling = (e.run calls).isActive := by
  intro setup calls
  have hruns : Outcome.holds (create "den" setup ⟨"damper", [.cooling]⟩) (fun e =>
      !e.isWithdrawn calls && (e.run calls).isActive) = true := by decide +kernel
  obtain ⟨e, he, htest⟩ := Outcome.exists_of_holds hruns
  obtain ⟨hthere, hactive⟩ := Bool.and_eq_true_iff.mp htest
  have hthere' : e.isWithdrawn calls = false := by simpa using hthere
  exact ⟨e, he, hthere', hactive, (status_of_run he calls).1.mpr (by simp [hthere'])⟩

/-- While it has not come back, the status still asks for outside air, and so does the status of the
zone, although the device was turned off.  Nor does the end change the status. -/
theorem calls_while_withdrawn :
    let setup : EconomizerSetup Rat := .standard .cooling (.ofTarget 1 22)
    let calls : List (EconomizerCall Rat) :=
      [.ambient (.ofEpoch 0 0) (.healthy (.ofEpoch 0 0) 15),
       .indoor (.ofEpoch 10 0) (.healthy (.ofEpoch 10 0) 25)]
    let lost : EconomizerCall Rat :=
      .indoor (.ofEpoch 20 0) (.failure (.ofEpoch 20 0) none (.sensor "gone"))
    let zone : Signal (ZoneStatus Rat) := .healthy (.ofEpoch 20 0) ⟨{}, .idle, none, none⟩
    ∃ e : Economizer Rat, create "den" setup ⟨"damper", [.cooling]⟩ = .ok e ∧
      ∀ last, last = lost ∨ last = .close →
        (e.run (calls ++ [last])).isActive = false ∧
        (e.run (calls ++ [last])).status.calling = true ∧
        ((((e.run (calls ++ [last])).suppress zone).value?.bind ZoneStatus.economizer).map
          EconomizerStatus.calling) = some true := by
  intro setup calls lost zone
  have hruns : Outcome.holds (create "den" setup ⟨"damper", [.cooling]⟩) (fun e =>
      [lost, .close].all fun last =>
        !(e.run (calls ++ [last])).isActive && (e.run (calls ++ [last])).status.calling) = true := by
    decide +kernel
  obtain ⟨e, he, htest⟩ := Outcome.exists_of_holds hruns
  refine ⟨e, he, fun last hlast => ?_⟩
  have hlast' : last ∈ [lost, .close] := by simpa using hlast
  obtain ⟨hactive, hcalling⟩ := Bool.and_eq_true_iff.mp (List.all_eq_true.mp htest last hlast')
  refine ⟨by simpa using hactive, hcalling, ?_⟩
  exact congrArg some hcalling

end Economizer

end HomeClimate
