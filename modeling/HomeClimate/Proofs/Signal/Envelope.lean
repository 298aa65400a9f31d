import HomeClimate.Signal.Basic

/-!
# Envelopes

What travels between the parts of a system is an *envelope*: a time, a value, a payload, a
status and an error, side by side.  Nothing keeps the five apart, so an envelope can
contradict itself.  It is *well formed* if its status says which of value and error are
there (`Envelope.IsWellFormed`).

There are a few ways to make an envelope and a few to make another one of it.  Each of them
sets the fields one by one.  Whatever is made in these ways is well formed, and whatever is
well formed can be made so (`Envelope.obtainable_iff`).

A `Signal` is what is left of an envelope when value, status and error are one thing, its
`Health`.  `Envelope.ofHealth` takes them apart again.

* An envelope is well formed exactly if it is made of some health
  (`Envelope.isWellFormed_iff`).
* What is done to an envelope that is made of some health is done to the health
  (`Envelope.map_ofHealth` and its like).  So a signal does what its envelope does.
-/

namespace HomeClimate

/-- The facts that travel, with a payload of any kind. -/
structure Envelope (α π : Type) where
  /-- When the value was observed. -/
  time : Instant
  /-- The value, if there is one. -/
  value? : Option α
  /-- What the sender attached, mostly where it comes from. -/
  payload? : Option π
  /-- What the sender says about the value. -/
  status : SignalStatus
  /-- The error, if there is one. -/
  error? : Option SignalError

namespace Envelope

variable {α β π ρ : Type}

/-! ## Making envelopes -/

/-- A value with nothing wrong. -/
def healthy (time : Instant) (value : α) : Envelope α π := ⟨time, some value, none, .ok, none⟩

/-- A value with nothing wrong, and a payload. -/
def attributed (time : Instant) (value : α) (payload : π) : Envelope α π :=
  ⟨time, some value, some payload, .ok, none⟩

/-- The best value there is, and the error that degraded it. -/
def partialFailure (time : Instant) (value : α) (payload? : Option π) (error : SignalError) :
    Envelope α π :=
  ⟨time, some value, payload?, .partialFailure, some error⟩

/-- No value, just the error. -/
def failure (time : Instant) (payload? : Option π) (error : SignalError) : Envelope α π :=
  ⟨time, none, payload?, .totalFailure, some error⟩

/-- An envelope of five facts, unless they contradict each other. -/
def assemble (time : Instant) (value? : Option α) (payload? : Option π) (status : SignalStatus)
    (error? : Option SignalError) : Except Signal.PartsError (Envelope α π) :=
  match status, value?.isSome, error?.isSome with
  | .ok, true, false => .ok ⟨time, value?, payload?, status, error?⟩
  | .partialFailure, true, true => .ok ⟨time, value?, payload?, status, error?⟩
  | .totalFailure, false, true => .ok ⟨time, value?, payload?, status, error?⟩
  | .totalFailure, true, _ => .error .valueInTotalFailure
  | .ok, _, true => .error .errorInHealthy
  | .ok, false, _ => .error .valueMissing
  | .partialFailure, false, _ => .error .valueMissing
  | _, _, false => .error .errorMissing

/-! ## Making one of another -/

/-- Whether the sender says that there is no value. -/
def isFailed (e : Envelope α π) : Bool := e.status == .totalFailure

/-- The envelope with something done to its value. -/
def map (f : α → β) (e : Envelope α π) : Envelope β π :=
  ⟨e.time, e.value?.map f, e.payload?, e.status, e.error?⟩

/-- The envelope with something done to its payload. -/
def mapPayload (f : π → ρ) (e : Envelope α π) : Envelope α ρ :=
  ⟨e.time, e.value?, e.payload?.map f, e.status, e.error?⟩

/-- The envelope with another payload, or none. -/
def replacePayload (e : Envelope α π) (payload? : Option ρ) : Envelope α ρ :=
  ⟨e.time, e.value?, payload?, e.status, e.error?⟩

/-- The envelope without its payload. -/
def withoutPayload (e : Envelope α π) : Envelope α Unit := e.replacePayload none

/-- The envelope, marked as degraded if nothing was wrong before. -/
def degrade (error : SignalError) (e : Envelope α π) : Envelope α π :=
  match e.status with
  | .ok => { e with status := .partialFailure, error? := some error }
  | _ => e

/-- A failed envelope for a value of another kind; one that has not failed is handed back. -/
def intoFailure (e : Envelope α π) : Except (Envelope α π) (Envelope β π) :=
  if e.isFailed then .ok ⟨e.time, none, e.payload?, e.status, e.error?⟩ else .error e

/-- The envelope around another value.  One that has failed stays without a value. -/
def withValue (e : Envelope α π) (value : β) : Envelope β π :=
  ⟨e.time, if e.isFailed then none else some value, e.payload?, e.status, e.error?⟩

/-! ## Well-formed envelopes -/

/-- The status of an envelope says which of value and error are there. -/
structure IsWellFormed (e : Envelope α π) : Prop where
  ok : e.status = .ok ↔ e.value?.isSome ∧ e.error? = none
  partialFailure : e.status = .partialFailure ↔ e.value?.isSome ∧ e.error?.isSome
  totalFailure : e.status = .totalFailure ↔ e.value? = none ∧ e.error?.isSome

/-- An envelope whose value, status and error are those of some health. -/
def ofHealth (time : Instant) (payload? : Option π) (health : Health α) : Envelope α π :=
  ⟨time, health.value?, payload?, health.status, health.error?⟩

theorem isWellFormed_ofHealth (time : Instant) (payload? : Option π) (health : Health α) :
    (ofHealth time payload? health).IsWellFormed := by
  cases health <;>
    exact ⟨by simp [ofHealth, Health.status, Health.value?, Health.error?],
      by simp [ofHealth, Health.status, Health.value?, Health.error?],
      by simp [ofHealth, Health.status, Health.value?, Health.error?]⟩

theorem isWellFormed_healthy (time : Instant) (value : α) :
    (healthy time value : Envelope α π).IsWellFormed :=
  isWellFormed_ofHealth time none (.ok value)

theorem isWellFormed_failure (time : Instant) (payload? : Option π) (error : SignalError) :
    (failure time payload? error : Envelope α π).IsWellFormed :=
  isWellFormed_ofHealth time payload? (.totalFailure error)

/-- What an envelope says that is well formed. -/
theorem IsWellFormed.exists_health {e : Envelope α π} (h : e.IsWellFormed) :
    ∃ health, e = ofHealth e.time e.payload? health := by
  obtain ⟨time, value?, payload?, status, error?⟩ := e
  cases status with
  | ok =>
      obtain ⟨hvalue, herror⟩ := h.ok.mp rfl
      obtain ⟨value, rfl⟩ := Option.isSome_iff_exists.mp hvalue
      cases herror
      exact ⟨.ok value, rfl⟩
  | partialFailure =>
      obtain ⟨hvalue, herror⟩ := h.partialFailure.mp rfl
      obtain ⟨value, rfl⟩ := Option.isSome_iff_exists.mp hvalue
      obtain ⟨error, rfl⟩ := Option.isSome_iff_exists.mp herror
      exact ⟨.partialFailure value error, rfl⟩
  | totalFailure =>
      obtain ⟨hvalue, herror⟩ := h.totalFailure.mp rfl
      cases hvalue
      obtain ⟨error, rfl⟩ := Option.isSome_iff_exists.mp herror
      exact ⟨.totalFailure error, rfl⟩

/-- The well-formed envelopes are those that are made of some health. -/
theorem isWellFormed_iff {e : Envelope α π} :
    e.IsWellFormed ↔ ∃ health, e = ofHealth e.time e.payload? health := by
  refine ⟨IsWellFormed.exists_health, ?_⟩
  rintro ⟨health, heq⟩
  rw [heq]
  exact isWellFormed_ofHealth _ _ health

/-- An envelope that is well formed and has not failed has a value. -/
theorem IsWellFormed.exists_value {e : Envelope α π} (h : e.IsWellFormed)
    (hfailed : e.isFailed = false) : ∃ value, e.value? = some value := by
  obtain ⟨health, heq⟩ := h.exists_health
  rw [heq] at hfailed ⊢
  cases health with
  | ok value => exact ⟨value, rfl⟩
  | partialFailure value error => exact ⟨value, rfl⟩
  | totalFailure error => cases hfailed

/-! ## What is done to the health -/

section OfHealth

variable (time : Instant) (payload? : Option π) (health : Health α)

theorem map_ofHealth (f : α → β) :
    (ofHealth time payload? health).map f = ofHealth time payload? (health.map f) := by
  cases health <;> rfl

theorem degrade_ofHealth (error : SignalError) :
    (ofHealth time payload? health).degrade error =
      ofHealth time payload? (health.degrade error) := by
  cases health <;> rfl

theorem withValue_ofHealth (value : β) :
    (ofHealth time payload? health).withValue value =
      ofHealth time payload? (health.map fun _ => value) := by
  cases health <;> rfl

/-- A failure is passed on as it is, and nothing else is. -/
theorem intoFailure_ofHealth :
    (∃ error, health = .totalFailure error ∧
        (ofHealth time payload? health).intoFailure =
          .ok (ofHealth time payload? (.totalFailure error) : Envelope β π)) ∨
      ((ofHealth time payload? health).isFailed = false ∧
        ((ofHealth time payload? health).intoFailure : Except _ (Envelope β π)) =
          .error (ofHealth time payload? health)) := by
  cases health with
  | ok value => exact .inr ⟨rfl, rfl⟩
  | partialFailure value error => exact .inr ⟨rfl, rfl⟩
  | totalFailure error => exact .inl ⟨error, rfl, rfl⟩

end OfHealth

/-! ## Everything that can be made -/

theorem isWellFormed_of_assemble {time : Instant} {value? : Option α} {payload? : Option π}
    {status : SignalStatus} {error? : Option SignalError} {e : Envelope α π}
    (h : assemble time value? payload? status error? = .ok e) : e.IsWellFormed := by
  -- Three of the twelve combinations are accepted, one of each kind of health.
  cases status <;> cases value? <;> cases error? <;> cases h
  case ok.some.none value => exact isWellFormed_ofHealth time payload? (.ok value)
  case partialFailure.some.some value error =>
    exact isWellFormed_ofHealth time payload? (.partialFailure value error)
  case totalFailure.none.some error =>
    exact isWellFormed_failure time payload? error

theorem IsWellFormed.assemble {e : Envelope α π} (h : e.IsWellFormed) :
    assemble e.time e.value? e.payload? e.status e.error? = .ok e := by
  obtain ⟨health, heq⟩ := h.exists_health
  rw [heq]
  cases health <;> rfl

section Makes

variable {e : Envelope α π} (h : e.IsWellFormed)

include h

theorem IsWellFormed.map (f : α → β) : (e.map f).IsWellFormed := by
  obtain ⟨health, heq⟩ := h.exists_health
  rw [heq, map_ofHealth]
  exact isWellFormed_ofHealth _ _ _

theorem IsWellFormed.mapPayload (f : π → ρ) : (e.mapPayload f).IsWellFormed :=
  ⟨h.ok, h.partialFailure, h.totalFailure⟩

theorem IsWellFormed.replacePayload (payload? : Option ρ) :
    (e.replacePayload payload?).IsWellFormed :=
  ⟨h.ok, h.partialFailure, h.totalFailure⟩

theorem IsWellFormed.withoutPayload : e.withoutPayload.IsWellFormed := h.replacePayload none

theorem IsWellFormed.degrade (error : SignalError) : (e.degrade error).IsWellFormed := by
  obtain ⟨health, heq⟩ := h.exists_health
  rw [heq, degrade_ofHealth]
  exact isWellFormed_ofHealth _ _ _

theorem IsWellFormed.withValue (value : β) : (e.withValue value).IsWellFormed := by
  obtain ⟨health, heq⟩ := h.exists_health
  rw [heq, withValue_ofHealth]
  exact isWellFormed_ofHealth _ _ _

theorem IsWellFormed.intoFailure {e' : Envelope β π} (hinto : e.intoFailure = .ok e') :
    e'.IsWellFormed := by
  obtain ⟨health, heq⟩ := h.exists_health
  rw [heq] at hinto
  rcases intoFailure_ofHealth (β := β) e.time e.payload? health with ⟨error, -, hok⟩ | ⟨-, herror⟩
  · rw [hok] at hinto
    cases hinto
    exact isWellFormed_ofHealth _ _ _
  · rw [herror] at hinto
    cases hinto

end Makes

/-- An envelope that has not failed is handed back as it was. -/
theorem eq_of_intoFailure {e e' : Envelope α π}
    (h : (e.intoFailure : Except _ (Envelope β π)) = .error e') : e' = e ∧ e.isFailed = false := by
  rw [intoFailure] at h
  split at h
  · cases h
  · rename_i hfailed
    cases h
    exact ⟨rfl, by simpa using hfailed⟩

/-- An envelope that is made in some way, and of others in some ways. -/
inductive Obtainable : {α π : Type} → Envelope α π → Prop where
  | healthy {α π : Type} (time : Instant) (value : α) :
      Obtainable (.healthy time value : Envelope α π)
  | attributed {α π : Type} (time : Instant) (value : α) (payload : π) :
      Obtainable (.attributed time value payload)
  | partialFailure {α π : Type} (time : Instant) (value : α) (payload? : Option π)
      (error : SignalError) : Obtainable (.partialFailure time value payload? error)
  | failure {α π : Type} (time : Instant) (payload? : Option π) (error : SignalError) :
      Obtainable (.failure time payload? error : Envelope α π)
  | assembled {α π : Type} {time : Instant} {value? : Option α} {payload? : Option π}
      {status : SignalStatus} {error? : Option SignalError} {e : Envelope α π} :
      assemble time value? payload? status error? = .ok e → Obtainable e
  | map {α β π : Type} {e : Envelope α π} (f : α → β) : Obtainable e → Obtainable (e.map f)
  | mapPayload {α π ρ : Type} {e : Envelope α π} (f : π → ρ) :
      Obtainable e → Obtainable (e.mapPayload f)
  | replacePayload {α π ρ : Type} {e : Envelope α π} (payload? : Option ρ) :
      Obtainable e → Obtainable (e.replacePayload payload?)
  | withoutPayload {α π : Type} {e : Envelope α π} : Obtainable e → Obtainable e.withoutPayload
  | degrade {α π : Type} {e : Envelope α π} (error : SignalError) :
      Obtainable e → Obtainable (e.degrade error)
  | intoFailure {α β π : Type} {e : Envelope α π} {e' : Envelope β π} :
      Obtainable e → e.intoFailure = .ok e' → Obtainable e'
  | handedBack {α β π : Type} {e e' : Envelope α π} :
      Obtainable e → (e.intoFailure : Except _ (Envelope β π)) = .error e' → Obtainable e'
  | withValue {α β π : Type} {e : Envelope α π} (value : β) :
      Obtainable e → Obtainable (e.withValue value)

theorem Obtainable.isWellFormed {e : Envelope α π} (h : e.Obtainable) : e.IsWellFormed := by
  induction h with
  | healthy time value => exact isWellFormed_healthy time value
  | attributed time value payload => exact isWellFormed_ofHealth time (some payload) (.ok value)
  | partialFailure time value payload? error =>
      exact isWellFormed_ofHealth time payload? (.partialFailure value error)
  | failure time payload? error => exact isWellFormed_failure time payload? error
  | assembled h => exact isWellFormed_of_assemble h
  | map f _ ih => exact ih.map f
  | mapPayload f _ ih => exact ih.mapPayload f
  | replacePayload payload? _ ih => exact ih.replacePayload payload?
  | withoutPayload _ ih => exact ih.withoutPayload
  | degrade error _ ih => exact ih.degrade error
  | intoFailure _ hinto ih => exact ih.intoFailure hinto
  | handedBack _ hinto ih => exact (eq_of_intoFailure hinto).1 ▸ ih
  | withValue value _ ih => exact ih.withValue value

/-- What can be made is well formed, and the other way round. -/
theorem obtainable_iff {e : Envelope α π} : e.Obtainable ↔ e.IsWellFormed :=
  ⟨Obtainable.isWellFormed, fun h => .assembled h.assemble⟩

end Envelope

/-! ## Signals -/

namespace Signal

variable {α β π : Type}

/-- The envelope of a signal, with a payload that has nothing to do with it. -/
def carrying (s : Signal α) (payload? : Option π) : Envelope α π :=
  .ofHealth s.time payload? s.health

/-- The envelope of a signal, with its source as the payload. -/
def envelope (s : Signal α) : Envelope α String := s.carrying s.source

/-- The envelope of a signal, with no payload. -/
def bare (s : Signal α) : Envelope α Unit := s.carrying none

theorem carrying_map (s : Signal α) (payload? : Option π) (f : α → β) :
    (s.map f).carrying payload? = (s.carrying payload?).map f :=
  (Envelope.map_ofHealth s.time payload? s.health f).symm

theorem carrying_withValue (s : Signal α) (payload? : Option π) (value : β) :
    (s.withValue value).carrying payload? = (s.carrying payload?).withValue value :=
  (Envelope.withValue_ofHealth s.time payload? s.health value).symm

@[simp] theorem value?_carrying (s : Signal α) (payload? : Option π) :
    (s.carrying payload?).value? = s.value? := rfl

theorem value?_withValue {s : Signal α} {v : α} (h : s.value? = some v) (value : β) :
    (s.withValue value).value? = some value :=
  (Health.value?_map (fun _ => value) s.health).trans (congrArg (Option.map _) h)

theorem withValue_withValue {γ : Type} (s : Signal α) (value : β) (value' : γ) :
    (s.withValue value).withValue value' = s.withValue value' := map_map _ _ s

theorem map_carrying_withValue {γ : Type} (s : Signal α) (payload? : Option π) (value : β)
    (f : β → γ) :
    ((s.withValue value).carrying payload?).map f = (s.withValue (f value)).carrying payload? := by
  rw [← carrying_map]
  exact congrArg (carrying · payload?) (map_map _ f s)

/-- The envelope of a signal that has a value is handed back. -/
theorem intoFailure_carrying (s : Signal α) (payload? : Option π) {value : α}
    (h : s.value? = some value) :
    ((s.carrying payload?).intoFailure : Except _ (Envelope β π)) =
      .error (s.carrying payload?) := by
  obtain ⟨time, source, health⟩ := s
  cases health with
  | ok v => rfl
  | partialFailure v error => rfl
  | totalFailure error => cases h

/-- The envelope of a signal that has no value is passed on. -/
theorem intoFailure_carrying_of_none (s : Signal α) (payload? : Option π) (f : α → β)
    (h : s.value? = none) :
    (s.carrying payload?).intoFailure = .ok ((s.map f).carrying payload?) := by
  obtain ⟨time, source, health⟩ := s
  cases health with
  | ok v => cases h
  | partialFailure v error => cases h
  | totalFailure error => rfl

theorem envelope_degrade (s : Signal α) (error : SignalError) :
    (s.degrade error).envelope = s.envelope.degrade error :=
  (Envelope.degrade_ofHealth s.time s.source s.health error).symm

/-- The facts that make a signal make its envelope, and the same contradictions are found. -/
theorem assemble_parts (p : Parts α) :
    Envelope.assemble p.time p.value? p.source p.status p.error? =
      (ofParts p).map Signal.envelope := by
  obtain ⟨time, value?, source, status, error?⟩ := p
  cases status <;> cases value? <;> cases error? <;> rfl

/-- A well-formed envelope is that of a signal, with the payload that it has. -/
theorem exists_carrying {e : Envelope α π} (h : e.IsWellFormed) :
    ∃ s : Signal α, e = s.carrying e.payload? := by
  obtain ⟨health, heq⟩ := h.exists_health
  exact ⟨⟨e.time, none, health⟩, heq⟩

theorem isWellFormed_carrying (s : Signal α) (payload? : Option π) :
    (s.carrying payload?).IsWellFormed :=
  Envelope.isWellFormed_ofHealth s.time payload? s.health

end Signal

end HomeClimate
