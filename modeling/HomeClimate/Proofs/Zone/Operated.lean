import HomeClimate.Proofs.Zone.Changes
import HomeClimate.Proofs.Zone.EconomizerCalls

/-!
# What becomes of the economizer of a zone

A zone does to its economizer what anyone can do who has it: it makes calls.  So whatever is
done to a zone, its economizer has got some calls (`Operates`), and an economizer that was set
up at some point is one that was set up and has got calls since (`IsReachable`).  What is so
of every such economizer need not be looked at again for zones, or for houses.
-/

namespace HomeClimate

variable {ν : Type} [Scalar ν]

/-! ## Economizers -/

/-- An economizer that was set up and has got some calls since. -/
def Economizer.IsReachable (e : Economizer ν) : Prop :=
  ∃ name setup device e₀ calls, create name setup device = .ok e₀ ∧ e = e₀.run calls

namespace Economizer

theorem isReachable_create {name : String} {setup : EconomizerSetup ν} {device : Device}
    {e : Economizer ν} (h : create name setup device = .ok e) : e.IsReachable :=
  ⟨name, setup, device, e, [], h, rfl⟩

theorem IsReachable.run {e : Economizer ν} (h : e.IsReachable) (calls : List (EconomizerCall ν)) :
    (e.run calls).IsReachable := by
  obtain ⟨name, setup, device, e₀, before, hcreate, rfl⟩ := h
  exact ⟨name, setup, device, e₀, before ++ calls, hcreate, by rw [run_append]⟩

/-- Settings that are accepted are those of one call. -/
theorem after_settings_of_ok {e e' : Economizer ν} {s : EconomizerSettings ν}
    (h : e.setSettings s = .ok e') : e.after (.settings s) = e' := by
  simp [after, h, Except.toOption]

end Economizer

/-! ## Zones -/

namespace Zone

/-- Between two states of a zone its economizer, if it has one, has got some calls. -/
def Operates (z z' : Zone ν) : Prop := ∃ calls, z'.economizer = z.economizer.map (·.run calls)

/-- The economizer of a zone, if it has one, was set up at some point. -/
def IsEquipped (z : Zone ν) : Prop := ∀ e, z.economizer = some e → e.IsReachable

theorem Operates.of_eq {z z' : Zone ν} (h : z'.economizer = z.economizer) : z.Operates z' :=
  ⟨[], by simp [h]⟩

theorem Operates.refl (z : Zone ν) : z.Operates z := .of_eq rfl

theorem Operates.of_call {z z' : Zone ν} (call : EconomizerCall ν)
    (h : z'.economizer = z.economizer.map (·.after call)) : z.Operates z' := ⟨[call], h⟩

theorem Operates.trans {z z₁ z₂ : Zone ν} (h : z.Operates z₁) (h' : z₁.Operates z₂) :
    z.Operates z₂ := by
  obtain ⟨calls, hcalls⟩ := h
  obtain ⟨more, hmore⟩ := h'
  refine ⟨calls ++ more, hmore.trans ?_⟩
  rw [hcalls, Option.map_map]
  simp [Function.comp_def]

/-- No zone gets or loses an economizer. -/
theorem Operates.isSome {z z' : Zone ν} (h : z.Operates z') :
    z'.economizer.isSome = z.economizer.isSome := by
  obtain ⟨calls, hcalls⟩ := h
  simp [hcalls]

theorem Operates.isEquipped {z z' : Zone ν} (h : z.Operates z') (hz : z.IsEquipped) :
    z'.IsEquipped := by
  obtain ⟨calls, hcalls⟩ := h
  intro e' he'
  rw [hcalls] at he'
  obtain ⟨e, he, rfl⟩ := Option.map_eq_some_iff.mp he'
  exact (hz e he).run calls

/-- A new zone has the economizer that it was given, after it got the block of the zone. -/
theorem isEquipped_create {thermostat : Thermostat ν} {settings : ZoneSettings ν}
    {economizer : Option (Economizer ν)} {z : Zone ν}
    (h : create thermostat settings economizer = .ok z)
    (heconomizer : ∀ e, economizer = some e → e.IsReachable) : z.IsEquipped := by
  obtain ⟨_, -, h⟩ := Outcome.of_bind_eq_ok h
  obtain ⟨economizer', he, h⟩ := Outcome.of_bind_eq_ok h
  cases h
  intro e' he'
  rcases configureEconomizer_cases he with rfl | ⟨e, e₁, s, rfl, hset, rfl⟩
  · exact heconomizer e' he'
  · cases he'
    rw [← Economizer.after_settings_of_ok hset]
    exact (heconomizer e rfl).run [.settings s]

theorem Adjusts.operates {z z' : Zone ν} (h : z.Adjusts z') : z.Operates z' := by
  rcases h.economizer with hsame | ⟨e, e', s, he, hset, he'⟩
  · exact .of_eq hsame
  · refine .of_call (.settings s) ?_
    rw [he, he', Option.map_some, Economizer.after_settings_of_ok hset]

theorem operates_attempt (z : Zone ν) (now : Instant) (sample : Signal ν) :
    z.Operates (z.attempt now sample).1 := by
  obtain ⟨thermostat, lastVerdict, hfst, -⟩ := z.attempt_fst now sample
  exact .of_call (.indoor now sample) (by rw [hfst]; rfl)

theorem operates_recordAmbient (z : Zone ν) (now : Instant) (reading : Signal ν) :
    z.Operates (z.recordAmbient now reading).1 :=
  .of_call (.ambient now reading) (by rw [recordAmbient, withEconomizer_fst]; rfl)

theorem operates_close (z : Zone ν) : z.Operates z.close := by
  rw [close]
  split
  · exact .refl z
  · exact .of_call .close rfl

end Zone

end HomeClimate
