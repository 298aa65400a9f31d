import HomeClimate.Proofs.Control.Envelopes
import HomeClimate.Proofs.Outcome
import HomeClimate.Proofs.Zone.Changes

/-!
# Economizers and zones on envelopes

An economizer keeps the last reading of each kind, and a zone keeps the last verdict of its
thermostat.  Here they keep the envelopes.
-/

namespace HomeClimate

variable {ν π : Type}

namespace Envelopes

/-! ## Economizers -/

/-- An economizer with the envelopes of its readings. -/
structure Economizer (ν : Type) where
  /-- All but the readings. -/
  rest : HomeClimate.Economizer ν
  /-- The last reading inside. -/
  indoor : Option (Envelope ν Unit)
  /-- The last reading outside. -/
  ambient : Option (Envelope ν Unit)

namespace Economizer

variable [Scalar ν]

/-- What is wrong with a pair of readings of which one has failed, the one inside first. -/
def failureMessage? (indoor ambient : Envelope ν Unit) : Option String :=
  ([indoor, ambient].find? Envelope.isFailed).map fun failed =>
    (failed.error?.map SignalError.message).getD ""

/-- Whether one of two readings is older than the timeout. -/
def isStale (x : Economizer ν) (now : Instant) (indoor ambient : Envelope ν Unit) : Bool :=
  match x.rest.timeout.toDifference?.bind now.sub? with
  | some limit => decide (indoor.time < limit) || decide (ambient.time < limit)
  | none => false

/-- The combined signal of the last readings, and the economizer with what it still knows. -/
def combine (x : Economizer ν) (now : Instant) : Trial ν (Economizer ν) (Envelope ν Unit) :=
  match x.indoor, x.ambient with
  | some indoor, some ambient =>
    match failureMessage? indoor ambient with
    | some message => (x, .ok (.failure now none (.inherited "economizer input" message)))
    | none =>
      if x.isStale now indoor ambient then
        ({ x with indoor := none, ambient := none },
          .ok (.failure now none (.stale "indoor/ambient pair")))
      else
        match indoor.value?, ambient.value? with
        | some i, some a =>
          let time := if ambient.time < indoor.time then indoor.time else ambient.time
          (x, .ok (.healthy time (combinedSignal x.rest.mode x.rest.settings i a)))
        | _, _ => (x, .error .unreachable)
  | _, _ => (x, .ok (.failure now none (.missing "indoor/ambient pair")))

/-- The economizer after its controllers decided on a combined signal. -/
def judge (x : Economizer ν) (combined : Envelope ν Unit) :
    Trial ν (Economizer ν) (Envelope ν Unit) :=
  let x := { x with rest := { x.rest with lastComputed := some combined.time } }
  match pid x.rest.controller combined with
  | (controller, .error stop) => ({ x with rest := { x.rest with controller } }, .error stop)
  | (controller, .ok answer) =>
    let x := { x with rest := { x.rest with controller } }
    match answer.value?.map ControlStatus.signal with
    | none => (x, .ok combined)
    | some demand =>
      match hysteresis x.rest.renderer (answer.map ControlStatus.signal) with
      | (renderer, .error stop) => ({ x with rest := { x.rest with renderer } }, .error stop)
      | (renderer, .ok rendered) =>
        let x := { x with rest := { x.rest with renderer } }
        match rendered.value? with
        | none => (x, .ok combined)
        | some shown =>
          let on := shown.signal == 1
          let status : EconomizerStatus ν :=
            ⟨some x.rest.settings, some shown.detail, demand, on, x.ambient.bind Envelope.value?⟩
          ({ x with rest := { x.rest with status }.drive on }, .ok combined)

/-- The economizer after a new reading, and the combined signal. -/
def update (x : Economizer ν) (now : Instant) : Trial ν (Economizer ν) (Envelope ν Unit) :=
  if x.rest.settings.isEnabled then
    match x.combine now with
    | (x, .error stop) => (x, .error stop)
    | (x, .ok combined) =>
      if combined.isFailed then ({ x with rest := x.rest.drive false }, .ok combined)
      else if x.rest.isDecided combined.time then (x, .ok combined)
      else x.judge combined
  else ({ x with rest := x.rest.disable }, .ok (.healthy now 0))

/-- The economizer after a reading inside, and the combined signal. -/
def recordIndoor (x : Economizer ν) (now : Instant) (reading : Envelope ν π) :
    Trial ν (Economizer ν) (Envelope ν Unit) :=
  { x with indoor := some reading.withoutPayload }.update now

/-- The economizer after a reading outside, and the combined signal. -/
def recordAmbient (x : Economizer ν) (now : Instant) (reading : Envelope ν Unit) :
    Trial ν (Economizer ν) (Envelope ν Unit) :=
  { x with ambient := some reading }.update now

/-- The status of the zone with what the economizer does to it.  A failure is passed on. -/
def suppress (x : Economizer ν) (status : Envelope (ZoneStatus ν) π) :
    Envelope (ZoneStatus ν) π :=
  if status.isFailed then status
  else
    status.map fun zone =>
      { zone with
        economizer := some x.rest.status
        calling := if x.rest.suppresses then .idle else zone.calling }

/-! ### Soundness -/

omit [Scalar ν] in
/-- The readings that an economizer keeps are well formed. -/
structure KeepsWellFormed (x : Economizer ν) : Prop where
  indoor : ∀ e, x.indoor = some e → e.IsWellFormed
  ambient : ∀ e, x.ambient = some e → e.IsWellFormed

omit [Scalar ν] in
/-- An economizer with no readings keeps nothing that is not well formed. -/
theorem keepsWellFormed_unread (rest : HomeClimate.Economizer ν) :
    KeepsWellFormed ⟨rest, none, none⟩ where
  indoor := by simp
  ambient := by simp

omit [Scalar ν] in
theorem isFailed_of_failureMessage? {indoor ambient : Envelope ν Unit}
    (h : failureMessage? indoor ambient = none) :
    indoor.isFailed = false ∧ ambient.isFailed = false := by
  simpa [failureMessage?] using h

theorem isSound_combine {x : Economizer ν} (h : x.KeepsWellFormed) (now : Instant) :
    IsSound (x.combine now).2 ∧ (x.combine now).1.KeepsWellFormed := by
  rw [combine]
  cases hi : x.indoor with
  | none => exact ⟨Envelope.isWellFormed_failure now none _, h⟩
  | some indoor =>
      cases ha : x.ambient with
      | none => exact ⟨Envelope.isWellFormed_failure now none _, h⟩
      | some ambient =>
          dsimp only
          cases hm : failureMessage? indoor ambient with
          | some message => exact ⟨Envelope.isWellFormed_failure now none _, h⟩
          | none =>
              dsimp only
              split
              · exact ⟨Envelope.isWellFormed_failure now none _, keepsWellFormed_unread _⟩
              · obtain ⟨hindoor, hambient⟩ := isFailed_of_failureMessage? hm
                obtain ⟨i, hi'⟩ := (h.indoor indoor hi).exists_value hindoor
                obtain ⟨a, ha'⟩ := (h.ambient ambient ha).exists_value hambient
                simp only [hi', ha']
                exact ⟨Envelope.isWellFormed_healthy _ _, h⟩

/-- The controllers leave the readings alone, and what they decided on comes out. -/
theorem isSound_judge (x : Economizer ν) {combined : Envelope ν Unit}
    (hc : combined.IsWellFormed) :
    IsSound (x.judge combined).2 ∧ (x.judge combined).1.indoor = x.indoor ∧
      (x.judge combined).1.ambient = x.ambient := by
  have hpid := isSound_pid x.rest.controller hc
  simp only [judge]
  cases hcontroller : pid x.rest.controller combined with
  | mk controller answer =>
      rw [hcontroller] at hpid
      cases answer with
      | error stop => exact ⟨IsSound.passedOn hpid, rfl, rfl⟩
      | ok answer =>
          dsimp only
          cases answer.value?.map ControlStatus.signal with
          | none => exact ⟨hc, rfl, rfl⟩
          | some demand =>
              have hshown := isSound_hysteresis x.rest.renderer
                (Envelope.IsWellFormed.map hpid ControlStatus.signal)
              dsimp only
              cases hrenderer : hysteresis x.rest.renderer (answer.map ControlStatus.signal) with
              | mk renderer rendered =>
                  rw [hrenderer] at hshown
                  cases rendered with
                  | error stop => exact ⟨IsSound.passedOn hshown, rfl, rfl⟩
                  | ok rendered =>
                      dsimp only
                      cases rendered.value? <;> exact ⟨hc, rfl, rfl⟩

theorem isSound_update {x : Economizer ν} (h : x.KeepsWellFormed) (now : Instant) :
    IsSound (x.update now).2 ∧ (x.update now).1.KeepsWellFormed := by
  rw [update]
  split
  · have hcombine := isSound_combine h now
    cases hx : x.combine now with
    | mk x' answer =>
        rw [hx] at hcombine
        cases answer with
        | error stop => exact hcombine
        | ok combined =>
            obtain ⟨hcombined, hkept⟩ := hcombine
            dsimp only
            split
            · exact ⟨hcombined, hkept.indoor, hkept.ambient⟩
            · split
              · exact ⟨hcombined, hkept⟩
              · obtain ⟨hjudge, hindoor, hambient⟩ := isSound_judge x' hcombined
                exact ⟨hjudge, hindoor ▸ hkept.indoor, hambient ▸ hkept.ambient⟩
  · exact ⟨Envelope.isWellFormed_healthy now 0, h.indoor, h.ambient⟩

theorem isSound_recordIndoor {x : Economizer ν} (h : x.KeepsWellFormed) (now : Instant)
    {reading : Envelope ν π} (hr : reading.IsWellFormed) :
    IsSound (x.recordIndoor now reading).2 ∧ (x.recordIndoor now reading).1.KeepsWellFormed := by
  refine isSound_update (x := { x with indoor := some reading.withoutPayload })
    ⟨fun e he => ?_, h.ambient⟩ now
  cases he
  exact hr.withoutPayload

theorem isSound_recordAmbient {x : Economizer ν} (h : x.KeepsWellFormed) (now : Instant)
    {reading : Envelope ν Unit} (hr : reading.IsWellFormed) :
    IsSound (x.recordAmbient now reading).2 ∧ (x.recordAmbient now reading).1.KeepsWellFormed := by
  refine isSound_update (x := { x with ambient := some reading }) ⟨h.indoor, fun e he => ?_⟩ now
  cases he
  exact hr

theorem isWellFormed_suppress (x : Economizer ν) {status : Envelope (ZoneStatus ν) π}
    (hs : status.IsWellFormed) : (x.suppress status).IsWellFormed := by
  rw [suppress]
  split
  · exact hs
  · exact hs.map _

/-- What can be done to an economizer, with readings that are well formed. -/
inductive Step (x : Economizer ν) : Economizer ν → Prop where
  | indoor {π : Type} (now : Instant) {reading : Envelope ν π} :
      reading.IsWellFormed → Step x (x.recordIndoor now reading).1
  | ambient (now : Instant) {reading : Envelope ν Unit} :
      reading.IsWellFormed → Step x (x.recordAmbient now reading).1
  | settings {s : EconomizerSettings ν} {rest : HomeClimate.Economizer ν} :
      x.rest.setSettings s = .ok rest → Step x { x with rest }
  | close : Step x { x with rest := x.rest.close }

/-- The economizers that can be reached. -/
inductive IsReachable : Economizer ν → Prop where
  | create {name : String} {setup : EconomizerSetup ν} {device : Device}
      {rest : HomeClimate.Economizer ν} :
      HomeClimate.Economizer.create name setup device = .ok rest → IsReachable ⟨rest, none, none⟩
  | step {x x' : Economizer ν} : IsReachable x → Step x x' → IsReachable x'

theorem KeepsWellFormed.step {x x' : Economizer ν} (h : x.KeepsWellFormed) (hstep : x.Step x') :
    x'.KeepsWellFormed := by
  cases hstep with
  | indoor now hr => exact (isSound_recordIndoor h now hr).2
  | ambient now hr => exact (isSound_recordAmbient h now hr).2
  | settings _ => exact ⟨h.indoor, h.ambient⟩
  | close => exact ⟨h.indoor, h.ambient⟩

theorem IsReachable.keepsWellFormed {x : Economizer ν} (h : x.IsReachable) :
    x.KeepsWellFormed := by
  induction h with
  | create _ => exact keepsWellFormed_unread _
  | step _ hstep ih => exact ih.step hstep

end Economizer

/-! ## Zones -/

/-- A zone with the envelopes of its last verdict and of the readings of its economizer. -/
structure Zone (ν : Type) where
  /-- All but these. -/
  rest : HomeClimate.Zone ν
  /-- The last verdict. -/
  lastVerdict : Option (Envelope (CallingStatus ν) Unit)
  /-- The last reading inside that the economizer got. -/
  indoor : Option (Envelope ν Unit)
  /-- The last reading outside that the economizer got. -/
  ambient : Option (Envelope ν Unit)

namespace Zone

variable [Scalar ν]

/-- The economizer of a zone, if it has one. -/
def economizer? (z : Zone ν) : Option (Economizer ν) :=
  z.rest.economizer.map fun rest => ⟨rest, z.indoor, z.ambient⟩

/-- The zone with an economizer in another state. -/
def withEconomizer (z : Zone ν) (x : Economizer ν) : Zone ν :=
  { z with rest := { z.rest with economizer := some x.rest }, indoor := x.indoor,
           ambient := x.ambient }

/-- A zone that has seen no sample, with an economizer that may have seen some. -/
def create (thermostat : Thermostat ν) (settings : ZoneSettings ν)
    (economizer : Option (Economizer ν)) : Except (ZoneError ν) (Zone ν) :=
  (HomeClimate.Zone.create thermostat settings (economizer.map Economizer.rest)).map fun rest =>
    ⟨rest, none, economizer.bind Economizer.indoor, economizer.bind Economizer.ambient⟩

/-- A verdict as a status of the zone. -/
def render (z : Zone ν) (verdict : Envelope (CallingStatus ν) Unit) :
    Envelope (ZoneStatus ν) String :=
  let status := verdict.map fun calling =>
    { settings := z.rest.settings
      calling := if z.rest.settings.isEnabled then calling else .idle
      economizer := none, period := z.rest.period : ZoneStatus ν }
  let status := status.replacePayload (some z.rest.name)
  match z.economizer? with
  | some x => x.suppress status
  | none => status

/-- The zone after its economizer took a reading inside, if it has one. -/
def shareSample (z : Zone ν) (now : Instant) (sample : Envelope ν π) : Trial ν (Zone ν) Unit :=
  match z.economizer? with
  | none => (z, .ok ())
  | some x =>
    let (x, combined) := x.recordIndoor now sample
    (z.withEconomizer x, combined.map fun _ => ())

/-- The zone after a sample at a time of the clock, and its status. -/
def compute (z : Zone ν) (now : Instant) (sample : Envelope ν π) :
    Trial ν (Zone ν) (Envelope (ZoneStatus ν) String) :=
  match z.shareSample now sample with
  | (z, .error stop) => (z, .error stop)
  | (z, .ok ()) =>
    match thermostat z.rest.thermostat sample.withoutPayload with
    | (thermostat, .error stop) => ({ z with rest := { z.rest with thermostat } }, .error stop)
    | (thermostat, .ok verdict) =>
      let z := { z with rest := { z.rest with thermostat }, lastVerdict := some verdict }
      (z, .ok (z.render verdict))

/-- The last verdict as a status under the settings of the moment. -/
def replay? (z : Zone ν) : Option (Envelope (ZoneStatus ν) String) := z.lastVerdict.map z.render

/-! ### Soundness -/

omit [Scalar ν] in
/-- The verdict and the readings that a zone keeps are well formed. -/
structure KeepsWellFormed (z : Zone ν) : Prop where
  lastVerdict : ∀ e, z.lastVerdict = some e → e.IsWellFormed
  indoor : ∀ e, z.indoor = some e → e.IsWellFormed
  ambient : ∀ e, z.ambient = some e → e.IsWellFormed

omit [Scalar ν] in
theorem KeepsWellFormed.economizer {z : Zone ν} (h : z.KeepsWellFormed) {x : Economizer ν}
    (hx : z.economizer? = some x) : x.KeepsWellFormed := by
  obtain ⟨rest, -, rfl⟩ := Option.map_eq_some_iff.mp hx
  exact ⟨h.indoor, h.ambient⟩

omit [Scalar ν] in
theorem KeepsWellFormed.withEconomizer {z : Zone ν} (h : z.KeepsWellFormed) {x : Economizer ν}
    (hx : x.KeepsWellFormed) : (z.withEconomizer x).KeepsWellFormed :=
  ⟨h.lastVerdict, hx.indoor, hx.ambient⟩

theorem isWellFormed_render (z : Zone ν) {verdict : Envelope (CallingStatus ν) Unit}
    (hv : verdict.IsWellFormed) : (z.render verdict).IsWellFormed := by
  rw [render]
  split
  · exact Economizer.isWellFormed_suppress _ ((hv.map _).replacePayload _)
  · exact (hv.map _).replacePayload _

theorem isSound_shareSample {z : Zone ν} (h : z.KeepsWellFormed) (now : Instant)
    {sample : Envelope ν π} (hs : sample.IsWellFormed) :
    (z.shareSample now sample).2 ≠ .error .unreachable ∧
      (z.shareSample now sample).1.KeepsWellFormed := by
  rw [shareSample]
  cases hx : z.economizer? with
  | none => exact ⟨nofun, h⟩
  | some x =>
      obtain ⟨hsound, hkeeps⟩ := Economizer.isSound_recordIndoor (h.economizer hx) now hs
      dsimp only
      refine ⟨fun hstop => ?_, h.withEconomizer hkeeps⟩
      cases hcombined : (x.recordIndoor now sample).2 with
      | ok combined =>
          rw [hcombined] at hstop
          cases hstop
      | error stop =>
          rw [hcombined] at hstop hsound
          cases hstop
          exact hsound

theorem isSound_compute {z : Zone ν} (h : z.KeepsWellFormed) (now : Instant)
    {sample : Envelope ν π} (hs : sample.IsWellFormed) :
    IsSound (z.compute now sample).2 ∧ (z.compute now sample).1.KeepsWellFormed := by
  obtain ⟨hreached, hshared⟩ := isSound_shareSample h now hs
  rw [compute]
  cases hz : z.shareSample now sample with
  | mk z' answer =>
      rw [hz] at hreached hshared
      cases answer with
      | error stop =>
          refine ⟨?_, hshared⟩
          cases stop with
          | fault f => trivial
          | unreachable => exact hreached rfl
      | ok _ =>
          have hsound := isSound_thermostat z'.rest.thermostat hs.withoutPayload
          dsimp only
          cases ht : thermostat z'.rest.thermostat sample.withoutPayload with
          | mk t answer =>
              rw [ht] at hsound
              cases answer with
              | error stop => exact ⟨hsound.passedOn, hshared.lastVerdict, hshared.indoor,
                  hshared.ambient⟩
              | ok verdict =>
                  refine ⟨isWellFormed_render _ hsound, fun e he => ?_, hshared.indoor,
                    hshared.ambient⟩
                  cases he
                  exact hsound

theorem isWellFormed_replay {z : Zone ν} (h : z.KeepsWellFormed)
    {status : Envelope (ZoneStatus ν) String} (hs : z.replay? = some status) :
    status.IsWellFormed := by
  obtain ⟨verdict, hverdict, rfl⟩ := Option.map_eq_some_iff.mp hs
  exact isWellFormed_render z (h.lastVerdict verdict hverdict)

/-- The zones that can be reached, with samples that are well formed.  A change of settings does not
see what the zone keeps, and whoever has its economizer may do to it what can be done to it. -/
inductive IsReachable : Zone ν → Prop where
  | create {thermostat : Thermostat ν} {settings : ZoneSettings ν}
      {economizer : Option (Economizer ν)} {z : Zone ν} :
      (∀ x, economizer = some x → x.IsReachable) →
      create thermostat settings economizer = .ok z → IsReachable z
  | sample {π : Type} {z : Zone ν} (now : Instant) {sample : Envelope ν π} :
      IsReachable z → sample.IsWellFormed → IsReachable (z.compute now sample).1
  | economizer {z : Zone ν} {x x' : Economizer ν} :
      IsReachable z → z.economizer? = some x → x.Step x' → IsReachable (z.withEconomizer x')
  | adjust {z : Zone ν} {rest : HomeClimate.Zone ν} :
      IsReachable z → z.rest.Adjusts rest → IsReachable { z with rest }
  | close {z : Zone ν} : IsReachable z → IsReachable { z with rest := z.rest.close }

theorem IsReachable.keepsWellFormed {z : Zone ν} (h : z.IsReachable) : z.KeepsWellFormed := by
  induction h with
  | @create thermostat settings economizer z hx hz =>
      obtain ⟨rest, -, rfl⟩ := Outcome.of_map_eq_ok hz
      cases economizer with
      | none => exact ⟨by simp, by simp, by simp⟩
      | some x =>
          have hkeeps := (hx x rfl).keepsWellFormed
          exact ⟨by simp, hkeeps.indoor, hkeeps.ambient⟩
  | sample now _ hs ih => exact (isSound_compute ih now hs).2
  | economizer _ hx hstep ih => exact ih.withEconomizer ((ih.economizer hx).step hstep)
  | adjust _ _ ih => exact ⟨ih.lastVerdict, ih.indoor, ih.ambient⟩
  | close _ ih => exact ⟨ih.lastVerdict, ih.indoor, ih.ambient⟩

end Zone

end Envelopes

end HomeClimate
