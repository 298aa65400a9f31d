import HomeClimate.Proofs.Zone.Operated

/-!
# Zones that were shut down

*Resting.*  Whatever is done to a zone, short of shutting it down, its economizer
gets calls and no more, it does not open or close, and once closed it gives its device
no command.  `Rests` says so of two states of a zone; it composes, so it holds from the
start to the end of any run.

*Parking.*  A zone is parked when its economizer, if it has one, is closed.  A zone
that was shut down is parked for good (`close_isParked`, `Rests.isParked`).  That
needs a zone that was not shut down before with its economizer still open, which is
what `ClosesWhole` rules out.
-/

namespace HomeClimate

variable {ν : Type}

/-! ## Economizers -/

/-- Between two states of an economizer it did not open or close, and gave no command if it was
closed. -/
structure Economizer.Rests (e e' : Economizer ν) : Prop where
  isClosed : e'.isClosed = e.isClosed
  issued : e.isClosed = true → e'.issued = e.issued

theorem Economizer.Rests.refl (e : Economizer ν) : e.Rests e := ⟨rfl, fun _ => rfl⟩

theorem Economizer.Rests.trans {e e₁ e₂ : Economizer ν} (h : e.Rests e₁) (h' : e₁.Rests e₂) :
    e.Rests e₂ :=
  ⟨h'.isClosed.trans h.isClosed,
    fun hc => (h'.issued (h.isClosed.trans hc)).trans (h.issued hc)⟩

theorem Economizer.Coasts.rests {e e' : Economizer ν} (h : e.Coasts e') : e.Rests e' :=
  ⟨h.isClosed, h.issued⟩

section Readings

variable [Scalar ν]

theorem Economizer.rests_recordIndoor (e : Economizer ν) (now : Instant) (reading : Signal ν) :
    e.Rests (e.recordIndoor now reading).1 :=
  ⟨update_isClosed _ now, fun hc => update_issued now hc⟩

theorem Economizer.rests_recordAmbient (e : Economizer ν) (now : Instant) (reading : Signal ν) :
    e.Rests (e.recordAmbient now reading).1 :=
  ⟨update_isClosed _ now, fun hc => update_issued now hc⟩

end Readings

/-! ## Zones -/

namespace Zone

/-- Every command given to the device of the economizer, the first one first. -/
def commands (z : Zone ν) : List (Command ν) := (z.economizer.map Economizer.issued).getD []

/-- Whether the economizer is closed, if there is one. -/
def IsParked (z : Zone ν) : Prop := ∀ e, z.economizer = some e → e.isClosed = true

/-- Whether a zone that was shut down is parked. -/
def ClosesWhole (z : Zone ν) : Prop := z.isClosed = true → z.IsParked

variable [Scalar ν]

/-- Between two states of a zone neither it nor its economizer opened or closed, and the economizer
got calls at most, and gave no command if it was closed. -/
structure Rests (z z' : Zone ν) : Prop where
  isClosed : z'.isClosed = z.isClosed
  economizer : Option.Rel Economizer.Rests z.economizer z'.economizer
  operates : z.Operates z'

theorem Rests.refl (z : Zone ν) : z.Rests z := by
  refine ⟨rfl, ?_, .refl z⟩
  cases z.economizer with
  | none => exact .none
  | some e => exact .some (.refl e)

theorem Rests.trans {z z₁ z₂ : Zone ν} (h : z.Rests z₁) (h' : z₁.Rests z₂) : z.Rests z₂ := by
  obtain ⟨hc, he, ho⟩ := h
  obtain ⟨hc', he', ho'⟩ := h'
  refine ⟨hc'.trans hc, ?_, ho.trans ho'⟩
  generalize z.economizer = e at he
  generalize z₁.economizer = e₁ at he he'
  generalize z₂.economizer = e₂ at he'
  cases he with
  | none =>
      cases he'
      exact .none
  | some h =>
      cases he' with
      | some h' => exact .some (h.trans h')

/-- Two states have no economizer, or one each. -/
theorem Rests.economizer_cases {z z' : Zone ν} (h : z.Rests z') :
    (z.economizer = none ∧ z'.economizer = none) ∨
      ∃ e e', z.economizer = some e ∧ z'.economizer = some e' ∧ e.Rests e' := by
  have he := h.economizer
  generalize z.economizer = e at he ⊢
  generalize z'.economizer = e' at he ⊢
  cases he with
  | none => exact .inl ⟨rfl, rfl⟩
  | some h => exact .inr ⟨_, _, rfl, rfl, h⟩

/-- A parked zone stays parked. -/
theorem Rests.isParked {z z' : Zone ν} (h : z.Rests z') (hp : z.IsParked) : z'.IsParked := by
  intro e₁ he₁
  rcases h.economizer_cases with ⟨-, hnone⟩ | ⟨e, e', he, he', hrests⟩
  · rw [hnone] at he₁
    cases he₁
  · rw [he'] at he₁
    cases he₁
    exact hrests.isClosed.trans (hp e he)

/-- A parked zone gives no command. -/
theorem Rests.commands_eq {z z' : Zone ν} (h : z.Rests z') (hp : z.IsParked) :
    z'.commands = z.commands := by
  rw [commands, commands]
  rcases h.economizer_cases with ⟨hnone, hnone'⟩ | ⟨e, e', he, he', hrests⟩
  · rw [hnone, hnone']
  · rw [he, he']
    exact hrests.issued (hp e he)

theorem Rests.closesWhole {z z' : Zone ν} (h : z.Rests z') (hz : z.ClosesWhole) :
    z'.ClosesWhole :=
  fun hc => h.isParked (hz (h.isClosed.symm.trans hc))

/-! ## What leaves a zone at rest -/

theorem Adjusts.rests {z z' : Zone ν} (h : z.Adjusts z') : z.Rests z' := by
  refine ⟨h.isClosed, ?_, h.operates⟩
  rcases h.economizer with heq | ⟨e, e', s, he, hset, he'⟩
  · rw [heq]
    exact (Rests.refl z).economizer
  · rw [he, he']
    exact .some (Economizer.coasts_setSettings hset).rests

/-- What only an economizer does leaves the zone at rest if it leaves the economizer at rest. -/
theorem rests_of_after {z z' : Zone ν} (call : EconomizerCall ν) (hc : z'.isClosed = z.isClosed)
    (he : z'.economizer = z.economizer.map (·.after call))
    (hf : ∀ e : Economizer ν, e.Rests (e.after call)) : z.Rests z' := by
  refine ⟨hc, ?_, .of_call call he⟩
  rw [he]
  cases z.economizer with
  | none => exact .none
  | some e => exact .some (hf e)

theorem rests_attempt (z : Zone ν) (now : Instant) (sample : Signal ν) :
    z.Rests (z.attempt now sample).1 := by
  obtain ⟨thermostat, lastVerdict, hfst, -⟩ := z.attempt_fst now sample
  rw [hfst]
  exact rests_of_after (.indoor now sample) rfl rfl fun e => e.rests_recordIndoor now sample

theorem rests_recordAmbient (z : Zone ν) (now : Instant) (reading : Signal ν) :
    z.Rests (z.recordAmbient now reading).1 := by
  rw [recordAmbient, withEconomizer_fst]
  exact rests_of_after (.ambient now reading) rfl rfl fun e =>
    e.rests_recordAmbient now reading

/-! ## The end -/

theorem close_isParked {z : Zone ν} (h : z.ClosesWhole) : z.close.IsParked := by
  by_cases hc : z.isClosed = true
  · rw [close_of_isClosed hc]
    exact h hc
  · rw [close, if_neg hc]
    intro e he
    obtain ⟨e₀, -, rfl⟩ := Option.map_eq_some_iff.mp he
    exact Economizer.close_isClosed e₀

end Zone

end HomeClimate
