import HomeClimate.Filter.Error
import HomeClimate.Signal.Basic

/-!
# The fallback filter

Sources stand in a chain, the best first, each with the last signal that came
from it.  The *winner* is the first source whose last signal has a value.

* A signal from the winner is passed on.  If it is healthy and sources ahead of
  the winner have failed, it is degraded by the oldest of their errors.
* A signal from another source is held back.
* If there is no winner, the signal is a failure, and it is passed on.
* A signal from a source that is not in the chain is dropped and leaves no trace.
-/

namespace HomeClimate

/-- A source with the last signal that came from it. -/
abbrev FallbackEntry (α : Type) := String × Option (Signal α)

/-- Sources in order of preference. -/
structure Fallback (α : Type) where
  /-- The sources, the best first. -/
  chain : List (FallbackEntry α)

namespace Fallback

variable {α : Type}

/-- The sources of a list, each of them new to those before it. -/
def distinct (known : List String) : List String → Except FilterError Unit
  | [] => .ok ()
  | source :: rest =>
    if known.contains source then .error (.duplicateSource source)
    else distinct (source :: known) rest

/-- A chain in which nothing has arrived.  A source that is repeated is reported before a chain
that is empty. -/
def create (sources : List String) : Except FilterError (Fallback α) := do
  distinct [] sources
  if sources.isEmpty then throw .emptyChain
  return ⟨sources.map fun s => (s, none)⟩

/-- The sources, the best first. -/
def sources (f : Fallback α) : List String := f.chain.map Prod.fst

/-- The last signal from a source. -/
def last? (f : Fallback α) (source : String) : Option (Signal α) :=
  (f.chain.find? fun e => e.1 == source).bind Prod.snd

/-- The chain after a signal from one of its sources. -/
def store (f : Fallback α) (source : String) (signal : Signal α) : Fallback α :=
  ⟨f.chain.map fun e => if e.1 == source then (e.1, some signal) else e⟩

/-- Whether the last signal of a source has a value. -/
def isUsable (e : FallbackEntry α) : Bool :=
  match e.2 with
  | some s => !s.isFailed
  | none => false

/-- The first source whose last signal has a value. -/
def winner? (f : Fallback α) : Option String := (f.chain.find? isUsable).map Prod.fst

/-- The failures of the sources ahead of the winner. -/
def failuresAhead (f : Fallback α) : List (Signal α) :=
  (f.chain.takeWhile fun e => !isUsable e).filterMap Prod.snd

/-- The earliest signal of a list, the first of several. -/
def earliest? : List (Signal α) → Option (Signal α)
  | [] => none
  | s :: rest =>
    match earliest? rest with
    | none => some s
    | some t => if t.time < s.time then some t else some s

/-- What is passed on of a signal that has just been stored. -/
def emit (f : Fallback α) (source : String) (signal : Signal α) : Option (Signal α) :=
  match f.winner? with
  | none => some signal
  | some w =>
    if w = source then
      match (earliest? f.failuresAhead).bind Signal.error? with
      | none => some signal
      | some e => some (signal.degrade e)
    else none

/-- The chain after a signal, and what is passed on of it. -/
def process (f : Fallback α) (signal : Signal α) : Fallback α × Option (Signal α) :=
  match signal.source with
  | none => (f, none)
  | some source =>
    if f.sources.contains source then
      let f := f.store source signal
      (f, f.emit source signal)
    else (f, none)

@[simp] theorem sources_store (f : Fallback α) (source : String) (signal : Signal α) :
    (f.store source signal).sources = f.sources := by
  simp only [sources, store, List.map_map]
  congr 1
  funext e
  simp only [Function.comp]
  split <;> rfl

theorem isSome_emit_iff (f : Fallback α) (source : String) (s : Signal α) :
    (f.emit source s).isSome = true ↔ f.winner? = none ∨ f.winner? = some source := by
  rw [emit]
  cases hwinner : f.winner? with
  | none => simp
  | some w =>
      dsimp only
      by_cases hw : w = source
      · rw [if_pos hw]
        split <;> simp [hw]
      · rw [if_neg hw]
        simp [hw]

/-- What is passed on is the signal itself, at most degraded. -/
theorem of_emit_eq_some {f : Fallback α} {source : String} {signal out : Signal α}
    (h : f.emit source signal = some out) : out = signal ∨ ∃ e, out = signal.degrade e := by
  rw [emit] at h
  split at h
  next =>
    cases h
    exact .inl rfl
  next =>
    split at h
    next =>
      split at h
      next =>
        cases h
        exact .inl rfl
      next e _ =>
        cases h
        exact .inr ⟨e, rfl⟩
    next => cases h

theorem process_of_unknown (f : Fallback α) {s : Signal α}
    (hs : ∀ source ∈ f.sources, s.source ≠ some source) : f.process s = (f, none) := by
  rw [process]
  split
  next => rfl
  next source heq =>
    refine if_neg ?_
    intro hmem
    exact hs source (by simpa using hmem) heq

theorem process_of_known (f : Fallback α) {s : Signal α} {source : String}
    (hs : s.source = some source) (hmem : source ∈ f.sources) :
    f.process s = (f.store source s, (f.store source s).emit source s) := by
  rw [process, hs]
  exact if_pos (by simpa using hmem)

/-- A signal from outside the chain has no effect, and one from it is stored before anything is
passed on. -/
theorem process_cases (f : Fallback α) (s : Signal α) :
    (∀ source ∈ f.sources, s.source ≠ some source) ∧ f.process s = (f, none) ∨
      ∃ source ∈ f.sources, s.source = some source ∧
        f.process s = (f.store source s, (f.store source s).emit source s) := by
  by_cases hs : ∃ source ∈ f.sources, s.source = some source
  · obtain ⟨source, hmem, hs⟩ := hs
    exact .inr ⟨source, hmem, hs, f.process_of_known hs hmem⟩
  · have hunknown : ∀ source ∈ f.sources, s.source ≠ some source := by simpa using hs
    exact .inl ⟨hunknown, f.process_of_unknown hunknown⟩

end Fallback

end HomeClimate
