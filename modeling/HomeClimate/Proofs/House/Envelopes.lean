import HomeClimate.Proofs.Filter.Envelopes
import HomeClimate.Proofs.Zone.EnvelopesOfSignals

/-!
# Envelopes all through a house

Envelopes are made in a few ways, and of others in a few ways, and every filter, controller,
thermostat, economizer and zone takes some and gives some.  If none that comes in contradicts
itself, none that comes out does, however long this has been going on: parts that keep what
they got, and build what they give of it, keep nothing that contradicts itself either
(`EnvelopesStayWellFormed`).  So nobody ever takes the value of an envelope that has not failed
and finds none.

The parts of a house keep signals, not envelopes.  They do with signals what these parts do with
their envelopes (`SignalsAreEnvelopes`).
-/

namespace HomeClimate

/-- What is made, and what filters, controllers, thermostats, economizers and zones give, is well
formed if what they get is. -/
structure EnvelopesStayWellFormed (ν : Type) [Scalar ν] : Prop where
  made {α π : Type} (e : Envelope α π) : e.Obtainable ↔ e.IsWellFormed
  median {π : Type} (m : Envelopes.Median ν π) (e : Envelope ν π) :
    e.IsWellFormed → (m.process e).2.IsWellFormed
  medianSet {π : Type} [BEq π] (m m' : Envelopes.MedianSet ν π) (e out : Envelope ν π) :
    e.IsWellFormed → m.process e = .ok (m', out) → out.IsWellFormed
  fallback {α π : Type} [BEq π] (f : Envelopes.Fallback α π) (e out : Envelope α π) :
    e.IsWellFormed → (f.process e).2 = some out → out.IsWellFormed
  /-- What a silence guard passes on. -/
  passed {α π : Type} (g : SilenceGuard) (e : Envelope α π) :
    e.IsWellFormed → (Envelopes.watch g e).2.IsWellFormed
  /-- What it reports when its timer runs out. -/
  expired {α π : Type} (g : SilenceGuard) (now : Instant) (out : Envelope α π) :
    (Envelopes.expire g now).2 = some out → out.IsWellFormed
  /-- What it reports when it is asked. -/
  checked {α π : Type} (g : SilenceGuard) (now : Instant) (out : Envelope α π) :
    (Envelopes.check g now).2 = some out → out.IsWellFormed
  rateLimiter {α π : Type} (r : Envelopes.RateLimiter α π) (e out : Envelope α π) :
    e.IsWellFormed → (r.process e).2 = some out → out.IsWellFormed
  order {α π : Type} (g : OrderGuard) (e out : Envelope α π) :
    e.IsWellFormed → (Envelopes.order g e).2 = some out → out.IsWellFormed
  pid {π : Type} (c : Pid ν) (e : Envelope ν π) :
    e.IsWellFormed → IsSound (Envelopes.pid c e).2
  hysteresis {π : Type} (c : Hysteresis ν) (e : Envelope ν π) :
    e.IsWellFormed → IsSound (Envelopes.hysteresis c e).2
  thermostat {π : Type} (t : Thermostat ν) (e : Envelope ν π) :
    e.IsWellFormed → IsSound (Envelopes.thermostat t e).2
  recordIndoor {π : Type} (x : Envelopes.Economizer ν) (now : Instant) (e : Envelope ν π) :
    x.IsReachable → e.IsWellFormed → IsSound (x.recordIndoor now e).2
  recordAmbient (x : Envelopes.Economizer ν) (now : Instant) (e : Envelope ν Unit) :
    x.IsReachable → e.IsWellFormed → IsSound (x.recordAmbient now e).2
  suppress {π : Type} (x : Envelopes.Economizer ν) (e : Envelope (ZoneStatus ν) π) :
    e.IsWellFormed → (x.suppress e).IsWellFormed
  zone {π : Type} (z : Envelopes.Zone ν) (now : Instant) (e : Envelope ν π) :
    z.IsReachable → e.IsWellFormed → IsSound (z.compute now e).2
  replayed (z : Envelopes.Zone ν) (out : Envelope (ZoneStatus ν) String) :
    z.IsReachable → z.replay? = some out → out.IsWellFormed

/-- The parts of a house do with signals what these parts do with the envelopes of the signals,
and whatever economizer or zone can be reached with signals can be reached with envelopes. -/
structure SignalsAreEnvelopes (ν : Type) [Scalar ν] : Prop where
  assembled {α : Type} (p : Signal.Parts α) :
    Envelope.assemble p.time p.value? p.source p.status p.error? =
      (Signal.ofParts p).map Signal.envelope
  mapped {α β : Type} (f : α → β) (s : Signal α) : s.envelope.map f = (s.map f).envelope
  revalued {α β : Type} (value : β) (s : Signal α) :
    s.envelope.withValue value = (s.withValue value).envelope
  attributed {α : Type} (source : Option String) (s : Signal α) :
    s.envelope.replacePayload source = (s.attributed source).envelope
  degraded {α : Type} (error : SignalError) (s : Signal α) :
    s.envelope.degrade error = (s.degrade error).envelope
  median (m : Median ν) (s : Signal ν) :
    m.envelopes.process s.envelope = ((m.process s).1.envelopes, (m.process s).2.envelope)
  medianSet (m : MedianSet ν) (s : Signal ν) :
    m.envelopes.process s.envelope = (m.process s).map fun r => (r.1.envelopes, r.2.envelope)
  fallback {α : Type} (f : Fallback α) (s : Signal α) :
    f.envelopes.process s.envelope =
      ((f.process s).1.envelopes, (f.process s).2.map Signal.envelope)
  passed {α : Type} (g : SilenceGuard) (s : Signal α) :
    Envelopes.watch g s.envelope = ((g.process s).1, (g.process s).2.envelope)
  expired {α : Type} (g : SilenceGuard) (now : Instant) :
    (Envelopes.expire g now : _ × Option (Envelope α String)) =
      let result : _ × Option (Signal α) := g.expire now
      (result.1, result.2.map Signal.envelope)
  checked {α : Type} (g : SilenceGuard) (now : Instant) :
    (Envelopes.check g now : _ × Option (Envelope α String)) =
      let result : _ × Option (Signal α) := g.check now
      (result.1, result.2.map Signal.envelope)
  rateLimiter {α : Type} (r : RateLimiter α) (same : Envelope α String → Envelope α String → Bool)
    (s : Signal α) : (∀ a b : Signal α, same a.envelope b.envelope = r.same a b) →
      (r.envelopes same).process s.envelope =
        ((r.process s).1.envelopes same, (r.process s).2.map Signal.envelope)
  sameValue {α : Type} [BEq α] (a b : Signal α) :
    Envelopes.sameValue a.envelope b.envelope = sameValue a b
  order {α : Type} (g : OrderGuard) (s : Signal α) :
    Envelopes.order g s.envelope = ((g.process s).1, (g.process s).2.map Signal.envelope)
  pid {π : Type} (c : Pid ν) (s : Signal ν) (payload? : Option π) :
    (Envelopes.pid c (s.carrying payload?)).complete =
      ((c.compute s).mapError Stop.fault).map fun r => (r.1, r.2.carrying payload?)
  hysteresis {π : Type} (c : Hysteresis ν) (s : Signal ν) (payload? : Option π) :
    Envelopes.hysteresis c (s.carrying payload?) =
      ((c.compute s).1, .ok ((c.compute s).2.carrying payload?))
  thermostat {π : Type} (t : Thermostat ν) (s : Signal ν) (payload? : Option π) :
    Envelopes.thermostat t (s.carrying payload?) =
      (t.attemptSample s).enclosed id (·.carrying payload?)
  recordIndoor {π : Type} (e : Economizer ν) (now : Instant) (s : Signal ν) (payload? : Option π) :
    e.envelopes.recordIndoor now (s.carrying payload?) =
      (e.recordIndoor now s).enclosed Economizer.envelopes Signal.bare
  recordAmbient (e : Economizer ν) (now : Instant) (s : Signal ν) :
    e.envelopes.recordAmbient now s.bare =
      (e.recordAmbient now s).enclosed Economizer.envelopes Signal.bare
  suppress (e : Economizer ν) (s : Signal (ZoneStatus ν)) :
    e.envelopes.suppress s.envelope = (e.suppress s).envelope
  zone {π : Type} (z : Zone ν) (now : Instant) (s : Signal ν) (payload? : Option π) :
    z.envelopes.compute now (s.carrying payload?) =
      (z.attempt now s).enclosed Zone.envelopes Signal.envelope
  replayed (z : Zone ν) : z.envelopes.replay? = z.replay?.map Signal.envelope
  economizerReached (e : Economizer ν) : e.IsReachable → e.envelopes.IsReachable
  zoneCreated (thermostat : Thermostat ν) (settings : ZoneSettings ν)
    (economizer : Option (Economizer ν)) (z : Zone ν) :
    (∀ e, economizer = some e → e.IsReachable) →
      Zone.create thermostat settings economizer = .ok z → z.envelopes.IsReachable
  zoneSampled (z : Zone ν) (now : Instant) (s : Signal ν) :
    z.envelopes.IsReachable → (z.attempt now s).1.envelopes.IsReachable
  zoneInformed (z : Zone ν) (now : Instant) (s : Signal ν) :
    z.envelopes.IsReachable → (z.recordAmbient now s).1.envelopes.IsReachable
  zoneCalled (z : Zone ν) (call : EconomizerCall ν) : z.envelopes.IsReachable →
    Envelopes.Zone.IsReachable
      ({ z with economizer := z.economizer.map (·.after call) } : Zone ν).envelopes
  zoneAdjusted (z z' : Zone ν) :
    z.Adjusts z' → z.envelopes.IsReachable → z'.envelopes.IsReachable
  zoneClosed (z : Zone ν) : z.envelopes.IsReachable → z.close.envelopes.IsReachable

/-- No envelope that is made or given anywhere in a house contradicts itself. -/
theorem envelopes_stay_wellFormed (ν : Type) [Scalar ν] :
    EnvelopesStayWellFormed ν ∧ SignalsAreEnvelopes ν where
  left := {
    made := fun _ => Envelope.obtainable_iff
    median := fun m e _ => m.isWellFormed_process e
    medianSet := fun _ _ _ _ he h => Envelopes.MedianSet.isWellFormed_process he h
    fallback := fun _ _ _ he h => Envelopes.Fallback.isWellFormed_process he h
    passed := fun _ _ he => he
    expired := fun _ _ _ h => Envelopes.isWellFormed_expire h
    checked := fun _ _ _ h => Envelopes.isWellFormed_check h
    rateLimiter := fun _ _ _ he h => Envelopes.RateLimiter.isWellFormed_process he h
    order := fun _ _ _ he h => Envelopes.isWellFormed_order he h
    pid := fun c _ he => Envelopes.isSound_pid c he
    hysteresis := fun c _ he => Envelopes.isSound_hysteresis c he
    thermostat := fun t _ he => Envelopes.isSound_thermostat t he
    recordIndoor := fun _ now _ hx he =>
      (Envelopes.Economizer.isSound_recordIndoor hx.keepsWellFormed now he).1
    recordAmbient := fun _ now _ hx he =>
      (Envelopes.Economizer.isSound_recordAmbient hx.keepsWellFormed now he).1
    suppress := fun x _ he => x.isWellFormed_suppress he
    zone := fun _ now _ hz he => (Envelopes.Zone.isSound_compute hz.keepsWellFormed now he).1
    replayed := fun _ _ hz h => Envelopes.Zone.isWellFormed_replay hz.keepsWellFormed h }
  right := {
    assembled := Signal.assemble_parts
    mapped := fun f s => (s.carrying_map _ f).symm
    revalued := fun value s => (s.carrying_withValue _ value).symm
    attributed := fun _ _ => rfl
    degraded := fun error s => (s.envelope_degrade error).symm
    median := Median.process_envelopes
    medianSet := MedianSet.process_envelopes
    fallback := Fallback.process_envelopes
    passed := SilenceGuard.process_envelopes
    expired := SilenceGuard.expire_envelopes
    checked := SilenceGuard.check_envelopes
    rateLimiter := fun r _ s hsame => r.process_envelopes hsame s
    sameValue := sameValue_envelopes
    order := OrderGuard.process_envelopes
    pid := Pid.compute_carrying
    hysteresis := Hysteresis.compute_carrying
    thermostat := Thermostat.attemptSample_carrying
    recordIndoor := Economizer.recordIndoor_envelopes
    recordAmbient := Economizer.recordAmbient_envelopes
    suppress := Economizer.suppress_envelopes
    zone := Zone.attempt_envelopes
    replayed := Zone.replay?_envelopes
    economizerReached := fun _ he => he.envelopes
    zoneCreated := fun _ _ _ _ he hz => Zone.isReachable_create he hz
    zoneSampled := fun _ now s hz => Zone.isReachable_attempt hz now s
    zoneInformed := fun _ now s hz => Zone.isReachable_recordAmbient hz now s
    zoneCalled := fun _ call hz => Zone.isReachable_call hz call
    zoneAdjusted := fun _ _ h hz => h.isReachable hz
    zoneClosed := fun _ hz => Zone.isReachable_close hz }

/-- A den with an economizer knows how cold it is outside and takes a sample that is degraded. -/
theorem envelopes_stay_wellFormed_in_den :
    let clock : Instant := .ofEpoch 61 0
    let sample : Envelope Rat String :=
      .partialFailure clock 25 (some "wall") (.sensor "frozen")
    ∃ (den : Zone Rat) (status : Envelope (ZoneStatus Rat) String),
      den.envelopes.IsReachable ∧ (den.envelopes.compute clock sample).2 = .ok status ∧
      status.status = .partialFailure ∧ status.IsWellFormed := by
  intro clock sample
  let outside (den : Zone Rat) : Zone Rat :=
    { den with economizer := den.economizer.map (·.after (.ambient clock (.healthy clock 10))) }
  have hruns : Outcome.holds (do
      let thermostat ← Thermostat.create "den" (20 : Rat) .standard (PidSettings.ofGains 1 1 0 0)
      let e ← Economizer.create "den" (.standard .cooling (.ofTarget 2 18)) ⟨"damper", [.cooling]⟩
      let den ← Zone.create thermostat { economizer := some (.ofTarget 2 18) } (some e)
      return (e, den))
    (fun (_, den) => Outcome.holds ((outside den).envelopes.compute clock sample).2
      fun status => status.status == .partialFailure) = true := by decide +kernel
  obtain ⟨⟨e, den⟩, hbuilt, htest⟩ := Outcome.exists_of_holds hruns
  obtain ⟨status, hstatus, hpartial⟩ := Outcome.exists_of_holds htest
  obtain ⟨_, hthermostat, hbuilt⟩ := Outcome.of_bind_eq_ok hbuilt
  obtain ⟨_, he, hbuilt⟩ := Outcome.of_bind_eq_ok hbuilt
  obtain ⟨_, hden, hbuilt⟩ := Outcome.of_bind_eq_ok hbuilt
  cases hbuilt
  obtain ⟨hstay, hare⟩ := envelopes_stay_wellFormed Rat
  have hreached : (outside den).envelopes.IsReachable :=
    hare.zoneCalled den _ (hare.zoneCreated _ _ _ _
      (fun _ h => Option.some.inj h ▸ Economizer.isReachable_create he) hden)
  have hsample : sample.IsWellFormed := (hstay.made sample).mp (.partialFailure clock 25 _ _)
  have hsound := hstay.zone _ clock sample hreached hsample
  rw [hstatus] at hsound
  exact ⟨outside den, status, hreached, hstatus, by simpa using hpartial, hsound⟩

end HomeClimate
