import HomeClimate.Proofs.Table
import HomeClimate.Proofs.Zone.Changes
import HomeClimate.Zone.Arbiter

/-!
# What becomes of a failure

A sample that has failed makes a verdict that has failed and a status that has failed,
and no other sample does.  A zone shows its last verdict as a status that has failed
exactly if the verdict has, under whatever settings.

A status that has failed says `error` and asks for nothing, so the arbiter would
demand the same if it had not come.
-/

namespace HomeClimate

variable {ν : Type} [Scalar ν]

/-! ## Signals -/

section Signals

omit [Scalar ν]

variable {α β : Type}

theorem Signal.isFailed_map (f : α → β) (s : Signal α) : (s.map f).isFailed = s.isFailed := by
  rw [isFailed, status_map, isFailed]

/-- A zone is in error exactly if its status has failed. -/
theorem ZoneState.of_eq_error_iff (s : Signal (ZoneStatus ν)) :
    ZoneState.of s = .error ↔ s.isFailed = true := by
  rw [s.isFailed_iff, ZoneState.of]
  cases s.value? with
  | none => exact ⟨fun _ => rfl, fun _ => rfl⟩
  | some status =>
      refine ⟨fun h => ?_, nofun⟩
      dsimp only at h
      split_ifs at h

end Signals

/-! ## Zones -/

theorem Thermostat.isFailed_attemptSample {t : Thermostat ν} {sample : Signal ν}
    {verdict : Signal (CallingStatus ν)} (h : (t.attemptSample sample).2 = .ok verdict) :
    verdict.isFailed = sample.isFailed := by
  rw [attemptSample] at h
  cases hv : sample.value? with
  | none =>
      rw [hv] at h
      cases h
      exact sample.isFailed_map _
  | some v =>
      rw [hv] at h
      obtain ⟨_, -, rfl⟩ := Outcome.of_map_eq_ok h
      exact sample.isFailed_map _

namespace Zone

theorem isFailed_render (z : Zone ν) (verdict : Signal (CallingStatus ν)) :
    (z.render verdict).isFailed = verdict.isFailed := by
  rw [render]
  cases z.economizer with
  | none => exact verdict.isFailed_map _
  | some e => exact (Signal.isFailed_map _ _).trans (verdict.isFailed_map _)

theorem source_render (z : Zone ν) (verdict : Signal (CallingStatus ν)) :
    (z.render verdict).source = some z.name := by
  rw [render]
  cases z.economizer with
  | none => rfl
  | some e => rfl

/-- What a zone makes of a sample: a last verdict and a status under its name, both of which have
failed if the sample has. -/
theorem compute_ok {z z' : Zone ν} {now : Instant} {sample : Signal ν}
    {status : Signal (ZoneStatus ν)} (h : z.compute now sample = .ok (z', status)) :
    z'.name = z.name ∧ z'.lastVerdict.map Signal.isFailed = some sample.isFailed ∧
      status.source = some z.name ∧ status.isFailed = sample.isFailed := by
  obtain ⟨_, hok, heq⟩ := Outcome.of_map_eq_ok h
  cases heq
  obtain ⟨verdict, hverdict, hlast, rfl⟩ := attempt_ok hok
  obtain ⟨thermostat, lastVerdict, hfst, -⟩ := z.attempt_fst now sample
  have hname : (z.attempt now sample).1.name = z.name := by rw [hfst]
  have hfailed : verdict.isFailed = (sample.attributed none).isFailed :=
    Thermostat.isFailed_attemptSample (congrArg Prod.snd hverdict)
  refine ⟨hname, ?_, ?_, ?_⟩
  · rw [hlast]
    exact congrArg some hfailed
  · rw [source_render, hname]
  · exact (isFailed_render _ verdict).trans hfailed

end Zone

/-! ## The arbiter -/

namespace Arbiter

/-- The arbiter without what it knows of a zone. -/
def forget (a : Arbiter ν) (name : String) : Arbiter ν :=
  { a with statuses := a.statuses.erase name }

omit [Scalar ν] in
theorem asked?_of_isFailed {s : Signal (ZoneStatus ν)} (h : s.isFailed = true) :
    asked? s = none := by
  rw [asked?, s.isFailed_iff.mp h]
  rfl

omit [Scalar ν] in
theorem asking_forget {a : Arbiter ν} {name : String}
    (h : ∀ e ∈ a.statuses, e.1 = name → e.2.isFailed = true) :
    (a.forget name).asking = a.asking := by
  rw [asking, asking, forget]
  exact Table.filterMap_values_erase fun e he hname => asked?_of_isFailed (h e he hname)

/-- A zone whose statuses have failed adds nothing to the demand. -/
theorem demand_forget {a : Arbiter ν} {name : String}
    (h : ∀ e ∈ a.statuses, e.1 = name → e.2.isFailed = true) (settings : List (ZoneSettings ν)) :
    (a.forget name).demand settings = a.demand settings := by
  rw [demand, demand, votes, votes, asking_forget h]

end Arbiter

end HomeClimate
