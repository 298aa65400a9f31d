import HomeClimate.House.Reading
import HomeClimate.Proofs.House.Assembly
import HomeClimate.Proofs.House.SensorChain
import HomeClimate.Proofs.Time.Order

/-!
# A chain by itself

At every reading a house asks a chain about silence, and then the chain takes the
reading if it is from a source of its own.  `ChainRun` is a chain of which nothing
else is known, with all that it has given so far.

A chain *watches* (`ChainRun.Watches`): unless the last that it gave was a failure,
its guard knows when it gave that, or when the house began if it gave nothing, and
this is less than its timeout ago.  The reports of silence see to it.  So they are
not late, however rarely readings come, as long as someone asks whenever time passes.
-/

namespace HomeClimate

variable {ν : Type}

/-- A chain and what it has given so far. -/
structure ChainRun (ν : Type) where
  /-- The chain. -/
  chain : SensorChain ν
  /-- Samples and reports of silence, the first one first. -/
  given : List (Signal ν)

theorem Reading.time_signal (reading : Reading ν) : reading.signal.time = reading.time := by
  rw [signal]
  cases reading.value with
  | none => rfl
  | some v => rfl

theorem Reading.source_signal (reading : Reading ν) :
    reading.signal.source = some reading.source := by
  rw [signal]
  cases reading.value with
  | none => rfl
  | some v => rfl

namespace ChainRun

/-! ## Runs -/

section Runs

variable [Scalar ν]

/-- A chain that has given nothing. -/
def start (chain : SensorChain ν) : ChainRun ν := ⟨chain, []⟩

/-- The run after the chain was asked about silence. -/
def check (w : ChainRun ν) (now : Instant) : ChainRun ν :=
  ⟨(w.chain.check now).1, w.given ++ (w.chain.check now).2.toList⟩

/-- The run after the chain took a reading. -/
def process (w : ChainRun ν) (reading : Signal ν) : ChainRun ν :=
  ⟨(w.chain.process reading).1, w.given ++ (w.chain.process reading).2.toList⟩

/-- The run after a reading of the house, from whatever source. -/
def hear (w : ChainRun ν) (reading : Reading ν) : ChainRun ν :=
  let w := w.check reading.time
  if w.chain.sources.contains reading.source then w.process reading.signal else w

/-- The run after readings of the house. -/
def run (w : ChainRun ν) (readings : List (Reading ν)) : ChainRun ν := readings.foldl hear w

/-- A chain is known by the same all the time. -/
theorem label_run (w : ChainRun ν) (readings : List (Reading ν)) :
    (w.run readings).chain.label = w.chain.label := by
  induction readings generalizing w with
  | nil => rfl
  | cons reading rest ih =>
      have hcheck := w.chain.label_check reading.time
      refine (ih (w.hear reading)).trans ?_
      rw [hear]
      split
      · exact ((w.check reading.time).chain.label_process reading.signal).trans hcheck
      · exact hcheck

end Runs

/-- Whether the last that the chain gave was a failure, if it gave anything. -/
def failed? (w : ChainRun ν) : Option Bool := w.given.getLast?.map Signal.isFailed

/-! ## The watch -/

/-- Since when the chain has given nothing, unless the last that it gave was a failure. -/
def since? (w : ChainRun ν) (first : Instant) : Option Instant :=
  match w.given.getLast? with
  | none => some first
  | some out => if out.isFailed then none else some out.time

/-- The guard of a chain knows since when it has given nothing, and that this is less than its
timeout ago. -/
structure Watches (w : ChainRun ν) (timeout : Span) (first now : Instant) : Prop where
  patience : w.chain.silence.timeout = timeout
  isPatient : 0 < timeout
  since : ∀ t, w.since? first = some t → w.chain.silence.lastSeen = some t ∧
    w.chain.silence.inTimeout = false ∧ now.spanSince t < timeout

variable {timeout : Span} {first : Instant}

theorem since?_concat (chain : SensorChain ν) (given : List (Signal ν)) (out : Signal ν)
    (first : Instant) :
    since? ⟨chain, given ++ [out]⟩ first = if out.isFailed then none else some out.time := by
  rw [since?, List.getLast?_concat]

/-- A chain that is asked for the first time watches. -/
theorem watches_start {chain : SensorChain ν} {name : String} {config : SensorConfig}
    (hnew : chain.IsNew name config) (now : Instant) :
    ((start chain).check now).Watches (Span.millis config.timeoutMillis) now now := by
  have hspan : now.spanSince now < chain.silence.timeout := by
    rw [Instant.spanSince_self]
    exact hnew.isPatient
  have hcheck : (chain.silence.check now : SilenceGuard × Option (Signal ν)) =
      ({ chain.silence with lastSeen := some now }, none) := by
    rw [SilenceGuard.check, hnew.lastSeen]
    exact if_pos hspan
  rw [ChainRun.check, start, SensorChain.check, hcheck]
  refine ⟨hnew.timeout, hnew.timeout ▸ hnew.isPatient, fun t ht => ?_⟩
  cases ht
  exact ⟨rfl, hnew.inTimeout, hnew.timeout ▸ hspan⟩

/-- A chain that watches and is asked again watches on, and reports the silence if it has to. -/
theorem Watches.check {w : ChainRun ν} {t : Instant} (h : w.Watches timeout first t)
    (now : Instant) : (w.check now).Watches timeout first now := by
  rw [ChainRun.check, SensorChain.check]
  rcases w.chain.silence.check_cases (α := ν) now with ⟨hspan, heq⟩ | ⟨-, ⟨hgoes, -⟩, heq⟩ |
    ⟨-, -, heq⟩
  · rw [heq]
    refine ⟨h.patience, h.isPatient, fun t' ht' => ?_⟩
    have hsince : w.since? first = some t' := by simpa [since?] using ht'
    obtain ⟨hseen, hout, -⟩ := h.since t' hsince
    rw [hseen, h.patience] at hspan
    exact ⟨congrArg some (by rw [hseen]; rfl), hout, hspan⟩
  · rw [heq]
    refine ⟨h.patience, h.isPatient, fun t' ht' => ?_⟩
    have hsince : w.since? first = some t' := by simpa [since?] using ht'
    obtain ⟨-, hout, -⟩ := h.since t' hsince
    rw [hgoes] at hout
    cases hout
  · rw [heq]
    refine ⟨h.patience, h.isPatient, fun t' ht' => ?_⟩
    have hnone : since? ⟨w.chain, w.given ++ [w.chain.silence.report now]⟩ first = none := by
      rw [since?_concat]
      rfl
    exact absurd (hnone.symm.trans ht') nofun

variable [Scalar ν]

/-- A chain that took a reading watches on from there. -/
theorem Watches.process {w : ChainRun ν} {now : Instant} (h : w.Watches timeout first now)
    {reading : Signal ν} (htime : reading.time = now) :
    (w.process reading).Watches timeout first now := by
  rw [ChainRun.process]
  cases hp : w.chain.process reading with
  | mk chain out =>
      cases out with
      | none =>
          obtain ⟨-, hsilence⟩ := SensorChain.process_none hp
          refine ⟨hsilence ▸ h.patience, h.isPatient, fun t ht => ?_⟩
          dsimp only
          rw [hsilence]
          exact h.since t (by simpa [since?] using ht)
      | some out =>
          obtain ⟨-, hsilence⟩ := SensorChain.process_some hp
          have hout := (SensorChain.time_of_process hp).trans htime
          have htimeout : chain.silence.timeout = timeout := by
            rw [hsilence]
            exact h.patience
          refine ⟨htimeout, h.isPatient, fun t ht => ?_⟩
          have hsince := (since?_concat chain w.given out first).symm.trans ht
          split at hsince
          · cases hsince
          · cases hsince
            dsimp only
            rw [hsilence, hout, Instant.spanSince_self]
            exact ⟨congrArg some hout, rfl, h.isPatient⟩

/-- A chain watches from the reading on that it heard last. -/
theorem Watches.hear {w : ChainRun ν} {reading : Reading ν}
    (h : (w.check reading.time).Watches timeout first reading.time) :
    (w.hear reading).Watches timeout first reading.time := by
  rw [ChainRun.hear]
  split
  · exact h.process reading.time_signal
  · exact h

/-- A chain that watches does so after more readings. -/
theorem Watches.run {w : ChainRun ν} {before last : Reading ν} {rest : List (Reading ν)}
    (h : w.Watches timeout first before.time) (hlast : (before :: rest).getLast? = some last) :
    (w.run rest).Watches timeout first last.time := by
  induction rest generalizing w before with
  | nil =>
      cases hlast
      exact h
  | cons reading rest ih =>
      rw [List.getLast?_cons_cons] at hlast
      exact ih (h.check reading.time).hear hlast

/-- A new chain watches as soon as the house had a reading. -/
theorem watches_run {chain : SensorChain ν} {name : String} {config : SensorConfig}
    (hnew : chain.IsNew name config) {readings : List (Reading ν)} {first last : Reading ν}
    (hfirst : readings.head? = some first) (hlast : readings.getLast? = some last) :
    ((start chain).run readings).Watches (Span.millis config.timeoutMillis) first.time
      last.time := by
  cases readings with
  | nil => cases hfirst
  | cons reading rest =>
      cases hfirst
      exact (watches_start hnew first.time).hear.run hlast

end ChainRun

end HomeClimate
