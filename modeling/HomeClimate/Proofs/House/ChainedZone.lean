import HomeClimate.Proofs.House.SensorChain
import HomeClimate.Proofs.Zone.Changes

/-!
# A zone behind its sensor chain

A zone takes all its samples from one sensor chain.  Meanwhile readings come in from
sensors that know nothing of each other, someone asks about silence, settings and
periods change, and readings outside reach the economizer.  Every `ZoneAct` may come
at any time, with any times in it; the clock too may show anything.

Two parts keep the controllers of the zone in order, and they keep it apart.

* The thermostat: a value gets out of the chain only if it is later than the last one.
  The bound of the controller is the time that the order guard remembers.
* The economizer: a pair of readings is judged only if it is later than the last one
  that was.  The bound of the controller is the time of the last decision.

`InOrder` is this invariant, and `InOrder.step` says that each act keeps it and
breaks no order of time.
-/

namespace HomeClimate

variable {ν : Type} [Scalar ν]

/-! ## Thermostats -/

namespace Thermostat

theorem seenUpTo_create {name : String} {setpoint : ν} {range : SetpointRange ν}
    {pid : PidSettings ν} {t : Thermostat ν} (h : create name setpoint range pid = .ok t)
    (last : Option Instant) : t.controller.SeenUpTo last := by
  obtain ⟨_, -, h⟩ := Outcome.of_bind_eq_ok h
  obtain ⟨controller, hc, h⟩ := Outcome.of_bind_eq_ok h
  obtain ⟨renderer, -, h⟩ := Outcome.of_bind_eq_ok h
  cases h
  exact Pid.seenUpTo_create (ZoneError.ofControl_eq_ok hc) last

theorem seenUpTo_setSetpoint {t t' : Thermostat ν} {setpoint : ν} {last : Option Instant}
    (h : t.setSetpoint setpoint = .ok t') (ht : t.controller.SeenUpTo last) :
    t'.controller.SeenUpTo last := by
  obtain ⟨_, -, h⟩ := Outcome.of_bind_eq_ok h
  obtain ⟨controller, hc, h⟩ := Outcome.of_bind_eq_ok h
  cases h
  exact ht.setSetpoint (ZoneError.ofControl_eq_ok hc)

/-- A failed sample leaves the thermostat as it is. -/
theorem attemptSample_of_none {t : Thermostat ν} {sample : Signal ν} (h : sample.value? = none) :
    t.attemptSample sample = (t, .ok (sample.map fun _ => .idle)) := by
  rw [attemptSample, h]

/-- A value that comes after all that the controller has seen does not break the order of time. -/
theorem seenUpTo_attemptSample {t : Thermostat ν} {last : Option Instant}
    (ht : t.controller.SeenUpTo last) (sample : Signal ν) (hafter : sample.time.IsAfter last) :
    (t.attemptSample sample).1.controller.SeenUpTo (some sample.time) ∧
      ∀ f, (t.attemptSample sample).2 = .error f → ¬ f.IsTimeOrder := by
  rw [attemptSample]
  cases hv : sample.value? with
  | none => exact ⟨ht.later hafter, fun f hf => nomatch hf⟩
  | some v =>
      have h := ht.attempt hafter v
      dsimp only
      rw [attempt]
      cases ha : t.controller.attempt sample.time v with
      | mk controller answer =>
          rw [ha] at h
          cases answer with
          | ok pid => exact ⟨h.1, fun f hf => nomatch hf⟩
          | error f =>
              refine ⟨h.1, fun f' hf => ?_⟩
              cases hf
              exact h.2 f rfl

end Thermostat

/-! ## Economizers -/

namespace Economizer

/-- The controller of an economizer has seen no reading that is later than its last decision. -/
def InOrder (e : Economizer ν) : Prop := e.controller.SeenUpTo e.lastComputed

omit [Scalar ν] in
theorem InOrder.coasts {e e' : Economizer ν} (h : e.InOrder) (hcoasts : e.Coasts e') :
    e'.InOrder := by
  rw [InOrder, hcoasts.controller, hcoasts.lastComputed]
  exact h

theorem inOrder_create {name : String} {setup : EconomizerSetup ν} {device : Device}
    {e : Economizer ν} (h : create name setup device = .ok e) : e.InOrder := by
  rw [create] at h
  split at h
  · cases h
  · obtain ⟨_, -, h⟩ := Outcome.of_bind_eq_ok h
    obtain ⟨controller, hc, h⟩ := Outcome.of_bind_eq_ok h
    obtain ⟨renderer, -, h⟩ := Outcome.of_bind_eq_ok h
    cases h
    exact Pid.seenUpTo_create (ZoneError.ofControl_eq_ok hc) none

omit [Scalar ν] in
/-- A signal on which there was no decision is later than the last decision. -/
theorem isAfter_of_not_isDecided {e : Economizer ν} {time : Instant}
    (h : e.isDecided time = false) : time.IsAfter e.lastComputed := by
  intro last hlast
  rw [isDecided, hlast] at h
  exact Instant.not_le.mp (by simpa using h)

/-- What a new reading leads to keeps the order, and does not break it. -/
theorem InOrder.update {e : Economizer ν} (h : e.InOrder) (now : Instant) :
    (e.update now).1.InOrder ∧ ∀ f, (e.update now).2 = .error f → ¬ f.IsTimeOrder := by
  rcases update_cases e now with ⟨hcoasts, s, hs⟩ | ⟨e₁, time, signal, hcoasts, hd, hfst, herror⟩
  · refine ⟨h.coasts hcoasts, fun f hf => ?_⟩
    rw [hs] at hf
    cases hf
  · have hjudged := (h.coasts hcoasts).attempt (isAfter_of_not_isDecided hd) signal
    refine ⟨?_, fun f hf => hjudged.2 f (judge_error (herror f hf))⟩
    rw [hfst, InOrder, judge_controller, judge_lastComputed]
    exact hjudged.1

omit [Scalar ν] in
theorem InOrder.setReadings {e : Economizer ν} (h : e.InOrder) (indoor ambient : Option (Signal ν)) :
    InOrder { e with indoor, ambient } := h

theorem InOrder.close {e : Economizer ν} (h : e.InOrder) : e.close.InOrder := by
  rw [Economizer.close]
  split
  · exact h
  · exact h

theorem InOrder.recordIndoor {e : Economizer ν} (h : e.InOrder) (now : Instant)
    (reading : Signal ν) :
    (e.recordIndoor now reading).1.InOrder ∧
      ∀ f, (e.recordIndoor now reading).2 = .error f → ¬ f.IsTimeOrder :=
  (h.setReadings _ _).update now

theorem InOrder.recordAmbient {e : Economizer ν} (h : e.InOrder) (now : Instant)
    (reading : Signal ν) :
    (e.recordAmbient now reading).1.InOrder ∧
      ∀ f, (e.recordAmbient now reading).2 = .error f → ¬ f.IsTimeOrder :=
  (h.setReadings _ _).update now

end Economizer

/-! ## Zones with chains -/

/-- A zone with the chain that its samples come from. -/
structure ChainedZone (ν : Type) where
  /-- The chain. -/
  chain : SensorChain ν
  /-- The zone. -/
  zone : Zone ν

/-- What can be done to a zone or to its chain. -/
inductive ZoneAct (ν : Type) where
  /-- A reading reaches the chain, while the clock shows a time. -/
  | reading (clock : Instant) (reading : Signal ν)
  /-- The chain is asked about silence at an instant, while the clock shows a time. -/
  | silence (clock now : Instant)
  /-- A reading outside reaches the economizer, while the clock shows a time. -/
  | ambient (clock : Instant) (reading : Signal ν)
  /-- A user changes the settings. -/
  | settings (update : ZoneSettings ν)
  /-- A period begins, or none is left. -/
  | period (period : Option (PeriodSettings ν))
  /-- Someone looks at the changes and has the last verdict shown again. -/
  | look
  /-- The zone is shut down. -/
  | close

namespace ChainedZone

/-- The fault in an answer, if there is one. -/
def faultOf {α : Type} : Except (Fault ν) α → Option (Fault ν)
  | .ok _ => none
  | .error f => some f

omit [Scalar ν] in
theorem faultOf_eq_some {α : Type} {answer : Except (Fault ν) α} {f : Fault ν}
    (h : faultOf answer = some f) : answer = .error f := by
  cases answer with
  | ok a => cases h
  | error f' =>
      cases h
      rfl

/-- The zone after what came out of its chain, if anything did, and the fault if there is one. -/
def take (c : ChainedZone ν) (clock : Instant) (out : Option (Signal ν)) :
    ChainedZone ν × Option (Fault ν) :=
  match out with
  | none => (c, none)
  | some sample =>
    let (zone, answer) := c.zone.attempt clock sample
    ({ c with zone }, faultOf answer)

/-- A zone and its chain after an act, as it is left even by a fault, and the fault if there is
one. -/
def step (c : ChainedZone ν) : ZoneAct ν → ChainedZone ν × Option (Fault ν)
  | .reading clock reading =>
    let (chain, out) := c.chain.process reading
    { c with chain }.take clock out
  | .silence clock now =>
    let (chain, report) := c.chain.check now
    { c with chain }.take clock report
  | .ambient clock reading =>
    let (zone, answer) := c.zone.recordAmbient clock reading
    ({ c with zone }, faultOf answer)
  | .settings update => ({ c with zone := (c.zone.setSettings update).1 }, none)
  | .period period => ({ c with zone := (c.zone.setPeriod period).1 }, none)
  | .look => ({ c with zone := c.zone.answerWakeUp.1 }, none)
  | .close => ({ c with zone := c.zone.close }, none)

/-- The faults of a run.  A run goes on after a fault. -/
def faults (c : ChainedZone ν) : List (ZoneAct ν) → List (Fault ν)
  | [] => []
  | act :: rest => (c.step act).2.toList ++ faults (c.step act).1 rest

/-! ## The invariant -/

/-- The thermostat has seen nothing later than the order guard has, and the economizer nothing later
than its last decision. -/
structure InOrder (c : ChainedZone ν) : Prop where
  thermostat : c.zone.thermostat.controller.SeenUpTo c.chain.order.last
  economizer : ∀ e, c.zone.economizer = some e → e.InOrder

/-- A change of settings keeps the order. -/
theorem InOrder.adjusts {c : ChainedZone ν} (h : c.InOrder) {zone : Zone ν}
    (ha : c.zone.Adjusts zone) : InOrder { c with zone } := by
  refine ⟨?_, fun e he => ?_⟩
  · rcases ha.thermostat with ht | ⟨setpoint, ht⟩
    · dsimp only
      rw [ht]
      exact h.thermostat
    · exact Thermostat.seenUpTo_setSetpoint ht h.thermostat
  · rcases ha.economizer with heq | ⟨e₀, e₁, s, he₀, hset, he₁⟩
    · exact h.economizer e (heq ▸ he)
    · cases he₁.symm.trans he
      exact (h.economizer e₀ he₀).coasts (Economizer.coasts_setSettings hset)

/-- A sample keeps the order if it has no value or comes after what the thermostat has seen. -/
theorem InOrder.take {c : ChainedZone ν} {last : Option Instant} {sample : Signal ν}
    (ht : c.zone.thermostat.controller.SeenUpTo last)
    (he : ∀ e, c.zone.economizer = some e → e.InOrder)
    (hsample : (sample.value? = none ∧ c.chain.order.last = last) ∨
      (sample.time.IsAfter last ∧ c.chain.order.last = some sample.time))
    (clock : Instant) :
    (c.take clock (some sample)).1.InOrder ∧
      ∀ f, (c.take clock (some sample)).2 = some f → ¬ f.IsTimeOrder := by
  have hindoor : ∀ e, c.zone.economizer = some e → (e.recordIndoor clock sample).1.InOrder ∧
      ∀ f, (e.recordIndoor clock sample).2 = .error f → ¬ f.IsTimeOrder :=
    fun e hsome => (he e hsome).recordIndoor clock sample
  have hthermostat : (c.zone.thermostat.attemptSample (sample.attributed none)).1.controller.SeenUpTo
        c.chain.order.last ∧
      c.zone.thermostat.controller.SeenUpTo c.chain.order.last ∧
      ∀ f, (c.zone.thermostat.attemptSample (sample.attributed none)).2 = .error f →
        ¬ f.IsTimeOrder := by
    rcases hsample with ⟨hvalue, hlast⟩ | ⟨hafter, hlast⟩
    · have hvalue' : (sample.attributed none).value? = none := hvalue
      rw [Thermostat.attemptSample_of_none hvalue', hlast]
      exact ⟨ht, ht, fun f hf => nomatch hf⟩
    · obtain ⟨hseen, hfault⟩ :=
        Thermostat.seenUpTo_attemptSample ht (sample.attributed none) hafter
      rw [hlast]
      exact ⟨hseen, ht.later hafter, hfault⟩
  obtain ⟨thermostat, lastVerdict, hfst, hor⟩ := Zone.attempt_fst c.zone clock sample
  refine ⟨⟨?_, fun e hsome => ?_⟩, fun f hf => ?_⟩
  · rw [ChainedZone.take]
    dsimp only
    rw [hfst]
    rcases hor with h | h
    · rw [h]
      exact hthermostat.2.1
    · rw [h]
      exact hthermostat.1
  · rw [ChainedZone.take] at hsome
    dsimp only at hsome
    rw [hfst] at hsome
    obtain ⟨e₀, he₀, rfl⟩ := Option.map_eq_some_iff.mp hsome
    exact (hindoor e₀ he₀).1
  · have herror : (c.zone.attempt clock sample).2 = .error f := faultOf_eq_some hf
    rcases Zone.attempt_error herror with ⟨e, hsome, hfault⟩ | hfault
    · exact (hindoor e hsome).2 f hfault
    · exact hthermostat.2.2 f hfault

/-- Every act keeps the order, and breaks none. -/
theorem InOrder.step {c : ChainedZone ν} (h : c.InOrder) (act : ZoneAct ν) :
    (c.step act).1.InOrder ∧ ∀ f, (c.step act).2 = some f → ¬ f.IsTimeOrder := by
  cases act with
  | reading clock reading =>
      rw [ChainedZone.step]
      cases hp : c.chain.process reading with
      | mk chain out =>
          cases out with
          | none =>
              have horder := (SensorChain.process_none hp).1
              refine ⟨⟨?_, h.economizer⟩, fun f hf => nomatch hf⟩
              dsimp only [ChainedZone.take]
              rw [horder]
              exact h.thermostat
          | some sample =>
              have hsample := (SensorChain.process_some hp).1
              exact InOrder.take (c := { c with chain }) h.thermostat h.economizer hsample clock
  | silence clock now =>
      rw [ChainedZone.step, SensorChain.check]
      cases hcheck : c.chain.silence.check (α := ν) now with
      | mk silence report =>
          cases report with
          | none => exact ⟨⟨h.thermostat, h.economizer⟩, fun f hf => nomatch hf⟩
          | some report =>
              have hvalue := SilenceGuard.value?_of_check hcheck
              exact InOrder.take (c := { c with chain := { c.chain with silence } }) h.thermostat
                h.economizer (.inl ⟨hvalue, rfl⟩) clock
  | ambient clock reading =>
      refine ⟨⟨?_, fun e he => ?_⟩, fun f hf => ?_⟩
      · dsimp only [ChainedZone.step, Zone.recordAmbient]
        rw [Zone.withEconomizer_fst]
        exact h.thermostat
      · dsimp only [ChainedZone.step, Zone.recordAmbient] at he
        rw [Zone.withEconomizer_fst] at he
        obtain ⟨e₀, he₀, rfl⟩ := Option.map_eq_some_iff.mp he
        exact ((h.economizer e₀ he₀).recordAmbient clock reading).1
      · obtain ⟨e₀, he₀, hfault⟩ := Zone.withEconomizer_error (faultOf_eq_some hf)
        exact ((h.economizer e₀ he₀).recordAmbient clock reading).2 f hfault
  | settings update => exact ⟨h.adjusts (c.zone.adjusts_setSettings update), fun f hf => nomatch hf⟩
  | period period => exact ⟨h.adjusts (c.zone.adjusts_setPeriod period), fun f hf => nomatch hf⟩
  | look => exact ⟨h.adjusts c.zone.adjusts_answerWakeUp, fun f hf => nomatch hf⟩
  | close =>
      refine ⟨?_, fun f hf => nomatch hf⟩
      dsimp only [ChainedZone.step]
      rw [Zone.close]
      split
      · exact h
      · refine ⟨h.thermostat, fun e he => ?_⟩
        obtain ⟨e₀, he₀, rfl⟩ := Option.map_eq_some_iff.mp he
        exact (h.economizer e₀ he₀).close

/-- A run that starts in order breaks none. -/
theorem InOrder.not_isTimeOrder {c : ChainedZone ν} (h : c.InOrder) (acts : List (ZoneAct ν)) :
    ∀ f ∈ c.faults acts, ¬ f.IsTimeOrder := by
  induction acts generalizing c with
  | nil => exact fun f hf => nomatch hf
  | cons act rest ih =>
      intro f hf
      obtain ⟨hnext, hfault⟩ := h.step act
      rw [faults] at hf
      rcases List.mem_append.mp hf with hf | hf
      · exact hfault f (Option.mem_toList.mp hf)
      · exact ih hnext f hf

/-- A zone that was just set up is in order, with an economizer or without, behind any chain. -/
theorem inOrder_create {name : String} {setpoint : ν} {range : SetpointRange ν}
    {pid : PidSettings ν} {thermostat : Thermostat ν} {economizer : Option (Economizer ν)}
    {settings : ZoneSettings ν} {zone : Zone ν}
    (hthermostat : Thermostat.create name setpoint range pid = .ok thermostat)
    (heconomizer : ∀ e, economizer = some e →
      ∃ owner setup device, Economizer.create owner setup device = .ok e)
    (hzone : Zone.create thermostat settings economizer = .ok zone) (chain : SensorChain ν) :
    InOrder ⟨chain, zone⟩ := by
  obtain ⟨t, ht, hzone⟩ := Outcome.of_bind_eq_ok hzone
  obtain ⟨configured, hconfigured, hzone⟩ := Outcome.of_bind_eq_ok hzone
  cases hzone
  refine ⟨?_, fun e he => ?_⟩
  · exact Thermostat.seenUpTo_setSetpoint ht (Thermostat.seenUpTo_create hthermostat _)
  · cases he
    rcases Zone.configureEconomizer_cases hconfigured with heq | ⟨e₀, e₁, s, he₀, hset, he₁⟩
    · obtain ⟨owner, setup, device, hcreate⟩ := heconomizer e heq.symm
      exact Economizer.inOrder_create hcreate
    · obtain ⟨owner, setup, device, hcreate⟩ := heconomizer e₀ he₀
      cases he₁
      exact (Economizer.inOrder_create hcreate).coasts (Economizer.coasts_setSettings hset)

/-- Time never goes back for the controllers of a zone behind a sensor chain, whatever happens to
the two and in whatever order, with whatever times. -/
theorem time_never_goes_back {name : String} {setpoint : ν} {range : SetpointRange ν}
    {pid : PidSettings ν} {thermostat : Thermostat ν} {economizer : Option (Economizer ν)}
    {settings : ZoneSettings ν} {zone : Zone ν}
    (hthermostat : Thermostat.create name setpoint range pid = .ok thermostat)
    (heconomizer : ∀ e, economizer = some e →
      ∃ owner setup device, Economizer.create owner setup device = .ok e)
    (hzone : Zone.create thermostat settings economizer = .ok zone) (chain : SensorChain ν)
    (acts : List (ZoneAct ν)) : ∀ f ∈ faults ⟨chain, zone⟩ acts, ¬ f.IsTimeOrder :=
  (inOrder_create hthermostat heconomizer hzone chain).not_isTimeOrder acts

/-- A den with an economizer, whose second reading comes an hour before its first. -/
theorem time_never_goes_back_in_den :
    ∃ (chain : SensorChain Rat) (thermostat : Thermostat Rat) (e : Economizer Rat) (zone : Zone Rat),
      SensorChain.create "den" { sources := ["wall", "desk"] } = .ok chain ∧
      Thermostat.create "den" 20 .standard (PidSettings.ofGains 1 1 0 0) = .ok thermostat ∧
      Economizer.create "den" (.standard .cooling (.ofTarget 2 18)) ⟨"damper", [.cooling]⟩ = .ok e ∧
      Zone.create thermostat {} (some e) = .ok zone ∧
      ∀ f ∈ faults ⟨chain, zone⟩
          [.reading (.ofEpoch 7200 0) (.healthy (.ofEpoch 7200 0) 25 (some "wall")),
           .ambient (.ofEpoch 7200 0) (.healthy (.ofEpoch 7200 0) 15),
           .reading (.ofEpoch 7200 0) (.healthy (.ofEpoch 3600 0) 24 (some "wall")),
           .silence (.ofEpoch 7200 0) (.ofEpoch 0 0), .look],
        ¬ f.IsTimeOrder := by
  have hden : ∀ (thermostat : Thermostat Rat) (e : Economizer Rat) (zone : Zone Rat)
      (chain : SensorChain Rat) (acts : List (ZoneAct Rat)),
      Thermostat.create "den" 20 .standard (PidSettings.ofGains 1 1 0 0) = .ok thermostat →
      Economizer.create "den" (.standard .cooling (.ofTarget 2 18)) ⟨"damper", [.cooling]⟩ = .ok e →
      Zone.create thermostat {} (some e) = .ok zone →
      ∀ f ∈ faults ⟨chain, zone⟩ acts, ¬ f.IsTimeOrder := by
    intro thermostat e zone chain acts ht he hz
    refine time_never_goes_back ht (fun e' he' => ?_) hz chain acts
    cases he'
    exact ⟨_, _, _, he⟩
  exact ⟨_, _, _, _, rfl, rfl, rfl, rfl, hden _ _ _ _ _ rfl rfl rfl⟩

end ChainedZone

end HomeClimate
