import HomeClimate.Time.TimeOfDay

/-!
# Signals

A *signal* is what one part of the system tells the next: an instant, a source
it is attributed to, and its health.  The health holds the value and the error,
so the three cases cannot be mixed up.

* `ok`: a value.
* `partialFailure`: a value that is the best there is, and the error that degraded it.
* `totalFailure`: an error and no value.

`Signal.Parts` are the same facts side by side, as they come from outside, where
they may contradict each other.  `Signal.ofParts` accepts exactly the parts that
are well formed, and `Signal.parts` gives them back.
-/

namespace HomeClimate

/-! ## Errors -/

/-- Why a signal is degraded or has no value. -/
inductive SignalError where
  /-- Nothing arrived for too long. -/
  | timeout (marker : String) (timeout : Span)
  /-- The sensor says so. -/
  | sensor (message : String)
  /-- An input is older than allowed. -/
  | stale (what : String)
  /-- An input has not been seen at all. -/
  | missing (what : String)
  /-- A part before this one failed. -/
  | inherited (what message : String)
  deriving Repr, DecidableEq, Inhabited

/-- An error as a text. -/
def SignalError.message : SignalError → String
  | .timeout marker span => marker ++ ": timeout of " ++ Span.describe span ++ " is exceeded"
  | .sensor message => "sensor failure: " ++ message
  | .stale what => "stale " ++ what
  | .missing what => "missing " ++ what
  | .inherited what message => what ++ ": " ++ message

/-! ## Health -/

/-- A value, an error, or both. -/
inductive Health (α : Type) where
  | ok (value : α)
  | partialFailure (value : α) (error : SignalError)
  | totalFailure (error : SignalError)
  deriving Repr, DecidableEq, Inhabited

/-- The kinds of health. -/
inductive SignalStatus where
  | ok
  | partialFailure
  | totalFailure
  deriving Repr, DecidableEq, Inhabited

namespace Health

variable {α β : Type}

/-- The kind of health. -/
def status : Health α → SignalStatus
  | .ok _ => .ok
  | .partialFailure _ _ => .partialFailure
  | .totalFailure _ => .totalFailure

/-- The value, if there is one. -/
def value? : Health α → Option α
  | .ok v => some v
  | .partialFailure v _ => some v
  | .totalFailure _ => none

/-- The error, if there is one. -/
def error? : Health α → Option SignalError
  | .ok _ => none
  | .partialFailure _ e => some e
  | .totalFailure e => some e

/-- The same health around another value. -/
def map (f : α → β) : Health α → Health β
  | .ok v => .ok (f v)
  | .partialFailure v e => .partialFailure (f v) e
  | .totalFailure e => .totalFailure e

/-- A healthy value marked as degraded.  A failure keeps its own error. -/
def degrade (e : SignalError) : Health α → Health α
  | .ok v => .partialFailure v e
  | h => h

@[simp] theorem status_map (f : α → β) (h : Health α) : (h.map f).status = h.status := by
  cases h <;> rfl

@[simp] theorem value?_map (f : α → β) (h : Health α) : (h.map f).value? = h.value?.map f := by
  cases h <;> rfl

@[simp] theorem error?_map (f : α → β) (h : Health α) : (h.map f).error? = h.error? := by
  cases h <;> rfl

@[simp] theorem map_map {γ : Type} (f : α → β) (g : β → γ) (h : Health α) :
    (h.map f).map g = h.map (g ∘ f) := by
  cases h <;> rfl

end Health

/-! ## Signals -/

/-- A value at an instant, attributed to a source. -/
structure Signal (α : Type) where
  /-- When the value was observed. -/
  time : Instant
  /-- What it is attributed to: a sensor, a zone. -/
  source : Option String
  /-- The value and what is wrong with it. -/
  health : Health α
  deriving Repr, DecidableEq, Inhabited

namespace Signal

variable {α β : Type}

/-- A healthy signal. -/
def healthy (time : Instant) (value : α) (source : Option String := none) : Signal α :=
  ⟨time, source, .ok value⟩

/-- A signal with no value. -/
def failure (time : Instant) (source : Option String) (error : SignalError) : Signal α :=
  ⟨time, source, .totalFailure error⟩

/-- The kind of health. -/
def status (s : Signal α) : SignalStatus := s.health.status

/-- The value, if there is one. -/
def value? (s : Signal α) : Option α := s.health.value?

/-- The error, if there is one. -/
def error? (s : Signal α) : Option SignalError := s.health.error?

/-- Whether there is no value.  A partial failure still has one. -/
def isFailed (s : Signal α) : Bool := s.status == .totalFailure

/-- Another value in the same envelope. -/
def map (f : α → β) (s : Signal α) : Signal β := ⟨s.time, s.source, s.health.map f⟩

/-- The envelope of a signal around a value.  A total failure stays without one. -/
def withValue (s : Signal α) (value : β) : Signal β := s.map fun _ => value

/-- The same signal attributed to something else. -/
def attributed (s : Signal α) (source : Option String) : Signal α := { s with source }

/-- The same signal, marked as degraded if it is healthy. -/
def degrade (e : SignalError) (s : Signal α) : Signal α := { s with health := s.health.degrade e }

/-- A total failure at another type, or none if the signal has a value. -/
def failure? (s : Signal α) : Option (Signal β) :=
  match s.health with
  | .totalFailure e => some ⟨s.time, s.source, .totalFailure e⟩
  | _ => none

@[simp] theorem map_map {γ : Type} (f : α → β) (g : β → γ) (s : Signal α) :
    (s.map f).map g = s.map (g ∘ f) := by
  simp [map]

@[simp] theorem status_map (f : α → β) (s : Signal α) : (s.map f).status = s.status := by
  simp [map, status]

theorem isFailed_iff (s : Signal α) : s.isFailed = true ↔ s.value? = none := by
  obtain ⟨time, source, health⟩ := s
  cases health with
  | ok v => exact ⟨nofun, nofun⟩
  | partialFailure v e => exact ⟨nofun, nofun⟩
  | totalFailure e => exact ⟨fun _ => rfl, fun _ => rfl⟩

theorem isFailed_degrade (e : SignalError) (s : Signal α) : (s.degrade e).isFailed = s.isFailed := by
  obtain ⟨time, source, health⟩ := s
  cases health <;> rfl

/-- A signal has a value or an error. -/
theorem exists_error {s : Signal α} (h : s.value? = none) : ∃ e, s.error? = some e := by
  obtain ⟨time, source, health⟩ := s
  cases health with
  | ok v => cases h
  | partialFailure v e => cases h
  | totalFailure e => exact ⟨e, rfl⟩

/-! ## Parts -/

/-- The facts of a signal side by side. -/
structure Parts (α : Type) where
  time : Instant
  value? : Option α
  source : Option String
  status : SignalStatus
  error? : Option SignalError

/-- How the parts of a signal contradict each other. -/
inductive PartsError where
  /-- A value in a total failure. -/
  | valueInTotalFailure
  /-- An error where there is no failure. -/
  | errorInHealthy
  /-- No value where one is needed. -/
  | valueMissing
  /-- No error in a failure. -/
  | errorMissing
  deriving Repr, DecidableEq

/-- What a contradiction is called. -/
def PartsError.what : PartsError → String
  | .valueInTotalFailure => "total failure can't carry a value"
  | .errorInHealthy => "healthy signal can't carry an error"
  | .valueMissing => "value is required unless the failure is total"
  | .errorMissing => "failed signal must carry an error"

/-- A contradiction as a text. -/
def PartsError.message (e : PartsError) : String := "Invalid signal: " ++ e.what

/-- The parts of a signal. -/
def parts (s : Signal α) : Parts α := ⟨s.time, s.value?, s.source, s.status, s.error?⟩

/-- The signal with the given parts. -/
def ofParts (p : Parts α) : Except PartsError (Signal α) :=
  match p.status, p.value?, p.error? with
  | .ok, some v, none => .ok ⟨p.time, p.source, .ok v⟩
  | .partialFailure, some v, some e => .ok ⟨p.time, p.source, .partialFailure v e⟩
  | .totalFailure, none, some e => .ok ⟨p.time, p.source, .totalFailure e⟩
  | .totalFailure, some _, _ => .error .valueInTotalFailure
  | .ok, _, some _ => .error .errorInHealthy
  | .ok, none, none => .error .valueMissing
  | .partialFailure, none, _ => .error .valueMissing
  | .partialFailure, some _, none => .error .errorMissing
  | .totalFailure, none, none => .error .errorMissing

theorem ofParts_parts (s : Signal α) : ofParts s.parts = .ok s := by
  obtain ⟨t, src, h⟩ := s
  cases h <;> rfl

end Signal

end HomeClimate
