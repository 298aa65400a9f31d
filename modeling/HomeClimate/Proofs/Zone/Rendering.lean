import HomeClimate.Proofs.House.ChainedZone
import HomeClimate.Proofs.Zone.Consistency
import HomeClimate.Proofs.Zone.Failures

/-!
# What a zone shows

A zone shows its verdict in an envelope of its own: its name stands for the source,
and its settings, its period and what its economizer does stand beside the verdict.
A zone that `IsMuted` says idle in place of the verdict.  Time, health and error pass
through four parts, and none of them touches them (`shows_render`).  That is all there is
to a status: one that says it is the rendering (`Shows.eq_render`).

A sample is shown when it comes, and its verdict is shown again at every `replay`.
The two are one rendering of one thing, the last verdict, so they cannot differ but by
what was changed in between (`status_and_replay`).

There is a status unless a controller is given up on.  That need not be for the order of
time: a sample that is no number has no control signal (`no_status_for_no_number`).
-/

namespace HomeClimate

variable {ν : Type} [Scalar ν]

/-! ## Faults -/

/-- A thermostat faults only where its controller does. -/
theorem Thermostat.attemptSample_error {t : Thermostat ν} {sample : Signal ν} {f : Fault ν}
    (h : (t.attemptSample sample).2 = .error f) : f.IsOfController := by
  rw [attemptSample] at h
  cases hv : sample.value? with
  | none =>
      rw [hv] at h
      cases h
  | some v =>
      rw [hv] at h
      dsimp only at h
      rw [attempt] at h
      cases hc : t.controller.attempt sample.time v with
      | mk controller answer =>
          rw [hc] at h
          cases answer with
          | ok pid => cases h
          | error f' =>
              cases h
              exact Pid.attempt_error (congrArg Prod.snd hc)

/-- An economizer faults only where its controller does. -/
theorem Economizer.update_error {e : Economizer ν} {now : Instant} {f : Fault ν}
    (h : (e.update now).2 = .error f) : f.IsOfController := by
  rcases update_cases e now with ⟨-, s, hs⟩ | ⟨e₁, time, signal, -, -, -, herror⟩
  · rw [hs] at h
    cases h
  · exact Pid.attempt_error (judge_error (herror f h))

/-- A verdict has the time, the health and the error of its sample. -/
theorem Thermostat.attemptSample_envelope {t : Thermostat ν} {sample : Signal ν}
    {verdict : Signal (CallingStatus ν)} (h : (t.attemptSample sample).2 = .ok verdict) :
    verdict.time = sample.time ∧ verdict.status = sample.status ∧
      verdict.error? = sample.error? := by
  rw [attemptSample] at h
  cases hv : sample.value? with
  | none =>
      rw [hv] at h
      cases h
      exact ⟨rfl, sample.status_map _, Health.error?_map _ _⟩
  | some v =>
      rw [hv] at h
      obtain ⟨c, -, rfl⟩ := Outcome.of_map_eq_ok h
      exact ⟨rfl, sample.status_map _, Health.error?_map _ _⟩

namespace Zone

theorem attempt_isOfController {z : Zone ν} {now : Instant} {sample : Signal ν} {f : Fault ν}
    (h : (z.attempt now sample).2 = .error f) : f.IsOfController := by
  rcases attempt_error h with ⟨e, -, he⟩ | ht
  · exact Economizer.update_error he
  · exact Thermostat.attemptSample_error ht

theorem recordAmbient_isOfController {z : Zone ν} {now : Instant} {reading : Signal ν} {f : Fault ν}
    (h : (z.recordAmbient now reading).2 = .error f) : f.IsOfController := by
  obtain ⟨e, -, he⟩ := withEconomizer_error h
  exact Economizer.update_error he

/-! ## Rendering -/

/-- Whether a zone keeps its verdicts to itself: it is disabled, or its economizer is on and the
unit is not to keep running. -/
def IsMuted (z : Zone ν) : Prop :=
  z.settings.isEnabled = false ∨
    ∃ e, z.economizer = some e ∧ e.isActive = true ∧ e.settings.keepsHvacOn = false

/-- What a status says of a verdict under the settings, the period and the economizer of a zone. -/
structure Shows (z : Zone ν) (verdict : Signal (CallingStatus ν)) (s : Signal (ZoneStatus ν)) :
    Prop where
  source : s.source = some z.name
  time : s.time = verdict.time
  status : s.status = verdict.status
  error : s.error? = verdict.error?
  value : ∀ shown, s.value? = some shown →
    shown.settings = z.settings ∧ shown.period = z.period ∧
      shown.economizer = z.economizer.map Economizer.status ∧
      (z.IsMuted → shown.calling = .idle) ∧ (¬ z.IsMuted → verdict.value? = some shown.calling)

/-- A verdict beside all that the zone says with it. -/
def beside (z : Zone ν) (calling : CallingStatus ν) : ZoneStatus ν :=
  { settings := z.settings
    calling :=
      if z.settings.isEnabled && !z.economizer.any Economizer.suppresses then calling else .idle
    economizer := z.economizer.map Economizer.status
    period := z.period }

theorem render_eq (z : Zone ν) (verdict : Signal (CallingStatus ν)) :
    z.render verdict = (verdict.map z.beside).attributed (some z.name) := by
  rw [render]
  cases he : z.economizer with
  | none =>
      dsimp only
      congr 2
      funext c
      simp [beside, he]
  | some e =>
      simp only [Economizer.suppress, Signal.attributed, Signal.map, Health.map_map]
      congr 2
      funext c
      cases hs : e.suppresses with
      | true => simp [beside, he, hs]
      | false => simp [beside, he, hs]

theorem calling_beside_of_isMuted {z : Zone ν} (h : z.IsMuted) (c : CallingStatus ν) :
    (z.beside c).calling = .idle := by
  rcases h with hoff | ⟨e, he, hactive, hkeeps⟩
  · simp [beside, hoff]
  · simp [beside, he, Economizer.suppresses, hactive, hkeeps]

theorem calling_beside_of_not_isMuted {z : Zone ν} (h : ¬ z.IsMuted) (c : CallingStatus ν) :
    (z.beside c).calling = c := by
  obtain ⟨hon, hplain⟩ := not_or.mp h
  have hon : z.settings.isEnabled = true := by simpa using hon
  cases he : z.economizer with
  | none => simp [beside, he, hon]
  | some e =>
      have hfree : e.suppresses = false := by
        rw [Economizer.suppresses]
        by_contra hs
        exact hplain ⟨e, he, by simpa using hs⟩
      simp [beside, he, hon, hfree]

/-- A rendering says all that a status is to say. -/
theorem shows_render (z : Zone ν) (verdict : Signal (CallingStatus ν)) :
    z.Shows verdict (z.render verdict) := by
  rw [render_eq]
  refine ⟨rfl, rfl, Health.status_map _ _, Health.error?_map _ _, fun shown hshown => ?_⟩
  obtain ⟨c, hc, rfl⟩ := Option.map_eq_some_iff.mp ((Health.value?_map _ _).symm.trans hshown)
  refine ⟨rfl, rfl, rfl, fun h => calling_beside_of_isMuted h c, fun h => ?_⟩
  rw [calling_beside_of_not_isMuted h]
  exact hc

/-- Nothing else says so: what a status is to say makes the status. -/
theorem Shows.eq_render {z : Zone ν} {verdict : Signal (CallingStatus ν)}
    {s : Signal (ZoneStatus ν)} (h : z.Shows verdict s) : s = z.render verdict := by
  rw [render_eq]
  obtain ⟨time, source, health⟩ := s
  obtain ⟨time', source', health'⟩ := verdict
  have hstatus : health.status = health'.status := h.status
  have herror : health.error? = health'.error? := h.error
  have hbeside : ∀ c shown, health'.value? = some c → health.value? = some shown →
      shown = z.beside c := by
    intro c shown hc hshown
    obtain ⟨hsettings, hperiod, heconomizer, hmuted, hfree⟩ := h.value shown hshown
    have hcalling : shown.calling = (z.beside c).calling := by
      by_cases hm : z.IsMuted
      · rw [hmuted hm, calling_beside_of_isMuted hm]
      · rw [calling_beside_of_not_isMuted hm]
        exact Option.some.inj ((hfree hm).symm.trans hc)
    obtain ⟨settings, calling, economizer, period⟩ := shown
    simp only at hsettings hperiod heconomizer hcalling
    rw [hsettings, hperiod, heconomizer, hcalling]
    rfl
  have hhealth : health = health'.map z.beside := by
    cases health' with
    | ok c =>
        cases health with
        | ok shown => exact congrArg Health.ok (hbeside c shown rfl rfl)
        | partialFailure shown e => cases hstatus
        | totalFailure e => cases hstatus
    | partialFailure c e' =>
        cases health with
        | ok shown => cases hstatus
        | partialFailure shown e =>
            cases herror
            exact congrArg (Health.partialFailure · e') (hbeside c shown rfl rfl)
        | totalFailure e => cases hstatus
    | totalFailure e' =>
        cases health with
        | ok shown => cases hstatus
        | partialFailure shown e => cases hstatus
        | totalFailure e =>
            cases herror
            rfl
  have htime : time = time' := h.time
  have hsource : source = some z.name := h.source
  rw [htime, hsource, hhealth]
  rfl

/-! ## Samples -/

/-- What a sample comes to: a controller is given up on, or there is a status of the new verdict. -/
theorem compute_cases (z : Zone ν) (now : Instant) (sample : Signal ν) :
    (∃ f, z.compute now sample = .error f ∧ f.IsOfController) ∨
      ∃ z' verdict, z.compute now sample = .ok (z', z'.render verdict) ∧
        (z.attempt now sample).1 = z' ∧
        z.thermostat.attemptSample (sample.attributed none) = (z'.thermostat, .ok verdict) ∧
        z'.lastVerdict = some verdict ∧
        z'.name = z.name ∧ z'.settings = z.settings ∧ z'.period = z.period := by
  obtain ⟨thermostat, lastVerdict, hfst, -⟩ := z.attempt_fst now sample
  rw [compute, Attempt.complete]
  cases ha : (z.attempt now sample).2 with
  | error f => exact .inl ⟨f, rfl, attempt_isOfController ha⟩
  | ok status =>
      obtain ⟨verdict, hverdict, hlast, rfl⟩ := attempt_ok ha
      refine .inr ⟨_, verdict, rfl, rfl, hverdict, hlast, ?_⟩
      rw [hfst]
      exact ⟨rfl, rfl, rfl⟩

/-- A sample that is not answered leaves the last verdict. -/
theorem lastVerdict_of_attempt_error {z : Zone ν} {now : Instant} {sample : Signal ν} {f : Fault ν}
    (h : (z.attempt now sample).2 = .error f) :
    (z.attempt now sample).1.lastVerdict = z.lastVerdict := by
  have hfst := withEconomizer_fst z (·.recordIndoor now sample)
  rw [attempt] at h ⊢
  cases hw : z.withEconomizer (·.recordIndoor now sample) with
  | mk z' answer =>
      rw [hw] at h hfst
      simp only at hfst
      subst hfst
      cases answer with
      | error f' => rfl
      | ok _ =>
          dsimp only at h ⊢
          split at h
          · rfl
          · cases h

end Zone

/-! ## Answers -/

/-- What a call gives. -/
inductive ZoneAnswer (ν : Type) where
  | status (answer : Except (Fault ν) (Signal (ZoneStatus ν)))
  | ambient (answer : Except (Fault ν) Unit)
  | settings (answer : Except (ZoneError ν) (ZoneSettings ν))
  | period (answer : Except (ZoneError ν) Unit)
  | replayed (status : Option (Signal (ZoneStatus ν)))
  | looked (status : Option (Signal (ZoneStatus ν)))
  | closed

/-- Whether a call shows the last verdict again. -/
def ZoneCall.isReplay : ZoneCall ν → Bool
  | .replay => true
  | _ => false

/-- Whether an answer is that of a replay. -/
def ZoneAnswer.isReplayed : ZoneAnswer ν → Bool
  | .replayed _ => true
  | _ => false

namespace Zone

/-- What a zone gives for a call. -/
def answer (z : Zone ν) : ZoneCall ν → ZoneAnswer ν
  | .sample clock sample => .status (z.attempt clock sample).2
  | .ambient clock reading => .ambient (z.recordAmbient clock reading).2
  | .settings update => .settings (z.setSettings update).2
  | .period period => .period (z.setPeriod period).2
  | .replay => .replayed z.replay?
  | .look => .looked z.answerWakeUp.2
  | .close => .closed

/-- What a zone gives for some calls, one after the other. -/
def answers (z : Zone ν) : List (ZoneCall ν) → List (ZoneAnswer ν)
  | [] => []
  | c :: calls => z.answer c :: (z.call c).answers calls

/-- Only a sample that is answered changes the last verdict. -/
theorem lastVerdict_call (z : Zone ν) (c : ZoneCall ν) :
    (z.call c).lastVerdict = z.lastVerdict ∨
      ∃ clock sample status,
        c = .sample clock sample ∧ (z.attempt clock sample).2 = .ok status := by
  cases c with
  | sample clock sample =>
      cases ha : (z.attempt clock sample).2 with
      | error f => exact .inl (lastVerdict_of_attempt_error ha)
      | ok status => exact .inr ⟨clock, sample, status, rfl, ha⟩
  | ambient clock reading =>
      rw [call, recordAmbient, withEconomizer_fst]
      exact .inl rfl
  | settings update => exact .inl (z.adjusts_setSettings update).lastVerdict
  | period period => exact .inl (z.adjusts_setPeriod period).lastVerdict
  | replay => exact .inl rfl
  | look => exact .inl z.adjusts_answerWakeUp.lastVerdict
  | close =>
      rw [call, close]
      split <;> exact .inl rfl

theorem isReplayed_answer (z : Zone ν) (c : ZoneCall ν) :
    (z.answer c).isReplayed = c.isReplay := by
  cases c <;> rfl

/-- Replays, wherever they stand, change neither the zone nor any other answer. -/
theorem without_replays (z : Zone ν) (calls : List (ZoneCall ν)) :
    z.after (calls.filter (!·.isReplay)) = z.after calls ∧
      z.answers (calls.filter (!·.isReplay)) = (z.answers calls).filter (!·.isReplayed) := by
  induction calls generalizing z with
  | nil => exact ⟨rfl, rfl⟩
  | cons c calls ih =>
      obtain ⟨hafter, hanswers⟩ := ih (z.call c)
      have hsame := z.isReplayed_answer c
      cases hc : c.isReplay with
      | true =>
          have hstays : z.call c = z := by
            cases c <;> first | rfl | cases hc
          rw [hc] at hsame
          rw [hstays] at hafter hanswers
          simp only [answers, after, List.foldl_cons, List.filter_cons, hc, hsame, hstays,
            Bool.not_true, Bool.false_eq_true, if_false]
          exact ⟨hafter, hanswers⟩
      | false =>
          rw [hc] at hsame
          simp only [answers, after, List.foldl_cons, List.filter_cons, hc, hsame, Bool.not_false,
            if_true]
          exact ⟨hafter, congrArg (_ :: ·) hanswers⟩

/-- For every zone, a sample has a status of its verdict unless a controller is given up on; the
zone shows its last verdict again in the same way, under what is so at that moment; and it does
nothing else by that. -/
theorem status_and_replay (z : Zone ν) :
    (∀ clock sample,
      (∃ f, z.compute clock sample = .error f ∧ (f.IsTimeOrder ∨ f.IsNoSignal)) ∨
        ∃ z' verdict status, z.compute clock sample = .ok (z', status) ∧
          z.thermostat.attemptSample (sample.attributed none) = (z'.thermostat, .ok verdict) ∧
          (z'.name = z.name ∧ z'.settings = z.settings ∧ z'.period = z.period) ∧
          (status.time = sample.time ∧ status.status = sample.status ∧
            status.error? = sample.error?) ∧
          z'.Shows verdict status ∧ z'.lastVerdict = some verdict ∧ z'.replay? = some status) ∧
      (∀ c, (z.call c).lastVerdict = z.lastVerdict ∨
        ∃ clock sample status, c = .sample clock sample ∧
          (z.attempt clock sample).2 = .ok status) ∧
      (z.lastVerdict = none → z.replay? = none) ∧
      (∀ verdict, z.lastVerdict = some verdict →
        ∃ status, z.replay? = some status ∧ z.Shows verdict status) ∧
      ∀ calls, z.after (calls.filter (!·.isReplay)) = z.after calls ∧
        z.answers (calls.filter (!·.isReplay)) = (z.answers calls).filter (!·.isReplayed) := by
  refine ⟨fun clock sample => ?_, z.lastVerdict_call, fun h => ?_, fun verdict h => ?_,
    z.without_replays⟩
  · rcases z.compute_cases clock sample with hfault | ⟨z', verdict, hok, -, hverdict, hlast, hsame⟩
    · exact .inl hfault
    · have hshows := z'.shows_render verdict
      obtain ⟨htime, hstatus, herror⟩ :=
        Thermostat.attemptSample_envelope (congrArg Prod.snd hverdict)
      exact .inr ⟨z', verdict, _, hok, hverdict, hsame,
        ⟨hshows.time.trans htime, hshows.status.trans hstatus, hshows.error.trans herror⟩,
        hshows, hlast, congrArg (Option.map z'.render) hlast⟩
  · rw [replay?, h]
    rfl
  · rw [replay?, h]
    exact ⟨_, rfl, z.shows_render verdict⟩

/-- A den that is disabled and given no number as its temperature.  There is no status, not even an
idle one, though the order of time is kept. -/
theorem no_status_for_no_number :
    ∃ (thermostat : Thermostat Float) (den : Zone Float) (f : Fault Float),
      Thermostat.create "den" 20 .standard (PidSettings.ofGains 1 0 0 0) = .ok thermostat ∧
      create thermostat { enabled := some false } none = .ok den ∧
      den.compute (.ofEpoch 0 0) (.healthy (.ofEpoch 0 0) (0 / 0)) = .error f ∧
      ¬ f.IsTimeOrder := by
  have hruns : Outcome.holds (do
      let thermostat ← Thermostat.create "den" (20 : Float) .standard (PidSettings.ofGains 1 0 0 0)
      let den ← create thermostat { enabled := some false } none
      return (thermostat, den))
    (fun built => Outcome.fails
      (built.2.compute (.ofEpoch 0 0) (.healthy (.ofEpoch 0 0) (0 / 0)))
      fun f => ! decide f.IsTimeOrder) = true := by decide +kernel
  obtain ⟨⟨thermostat, den⟩, hbuilt, htest⟩ := Outcome.exists_of_holds hruns
  obtain ⟨_, hthermostat, hbuilt⟩ := Outcome.of_bind_eq_ok hbuilt
  obtain ⟨_, hden, hbuilt⟩ := Outcome.of_bind_eq_ok hbuilt
  cases hbuilt
  obtain ⟨f, hf, hlate⟩ := Outcome.exists_of_fails htest
  exact ⟨thermostat, den, f, hthermostat, hden, hf, by simpa using hlate⟩

end Zone

end HomeClimate
