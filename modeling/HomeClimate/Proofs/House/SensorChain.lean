import HomeClimate.House.SensorChain
import HomeClimate.Proofs.Control.TimeOrder
import HomeClimate.Proofs.Filter.SilenceChecks

/-!
# What comes out of a sensor chain

A chain gives something for a reading, or it gives nothing and leaves its guards as
they were.  What it gives is a failure or a value that is later than all values
before it, and it is what the silence guard has seen last.

A report of silence is a failure, and nothing but the silence guard takes notice.

What a chain measures for and from which sources (`SensorChain.label`) stays the same
whatever it takes, and what it gives has the time of what it took.
-/

namespace HomeClimate

variable {ν : Type}

/-! ## Guards -/

/-- What gets past the order guard: a failure, which the guard forgets, or a value that is later
than the last one, which it remembers. -/
theorem OrderGuard.process_some {g g' : OrderGuard} {s out : Signal ν}
    (h : g.process s = (g', some out)) :
    (out.value? = none ∧ g'.last = g.last) ∨
      (out.time.IsAfter g.last ∧ g'.last = some out.time) := by
  rw [OrderGuard.process] at h
  by_cases hf : s.isFailed = true
  · rw [if_pos hf] at h
    cases h
    refine .inl ⟨?_, rfl⟩
    obtain ⟨t, src, health⟩ := s
    cases health with
    | totalFailure e => rfl
    | ok v => cases hf
    | partialFailure v e => cases hf
  · rw [if_neg hf] at h
    by_cases hd : g.drops s.time = true
    · rw [if_pos hd] at h
      cases h
    · rw [if_neg hd] at h
      cases h
      refine .inr ⟨fun t ht => ?_, rfl⟩
      rw [OrderGuard.drops, ht] at hd
      exact Instant.not_le.mp (by simpa using hd)

/-- What the order guard holds back leaves no trace. -/
theorem OrderGuard.process_none {g g' : OrderGuard} {s : Signal ν}
    (h : g.process s = (g', none)) : g' = g := by
  rw [OrderGuard.process] at h
  by_cases hf : s.isFailed = true
  · rw [if_pos hf] at h
    cases h
  · rw [if_neg hf] at h
    by_cases hd : g.drops s.time = true
    · rw [if_pos hd] at h
      cases h
      rfl
    · rw [if_neg hd] at h
      cases h

/-- A report of silence has no value. -/
theorem SilenceGuard.value?_of_check {g g' : SilenceGuard} {now : Instant} {report : Signal ν}
    (h : g.check now = (g', some report)) : report.value? = none := by
  rcases g.check_cases (α := ν) now with ⟨-, heq⟩ | ⟨-, -, heq⟩ | ⟨-, -, heq⟩
  · rw [heq] at h
    cases h
  · rw [heq] at h
    cases h
  · rw [heq] at h
    cases h
    rfl

/-- A report of silence has the time at which someone asked. -/
theorem SilenceGuard.time_of_check {g g' : SilenceGuard} {now : Instant} {report : Signal ν}
    (h : g.check now = (g', some report)) : report.time = now := by
  rcases g.check_cases (α := ν) now with ⟨-, heq⟩ | ⟨-, -, heq⟩ | ⟨-, -, heq⟩
  · rw [heq] at h
    cases h
  · rw [heq] at h
    cases h
  · rw [heq] at h
    cases h
    rfl

/-- A guard stays one for the same thing and with the same patience. -/
theorem SilenceGuard.check_rest (g : SilenceGuard) (now : Instant) :
    (g.check now : SilenceGuard × Option (Signal ν)).1.marker = g.marker ∧
      (g.check now : SilenceGuard × Option (Signal ν)).1.timeout = g.timeout := by
  obtain ⟨hmarker, htimeout, -⟩ := g.after_rest (.check now : GuardCall ν)
  exact ⟨hmarker, htimeout⟩

/-- The fallback filter passes on what it takes, at most degraded. -/
theorem Fallback.time_of_process {f f' : Fallback ν} {s out : Signal ν}
    (h : f.process s = (f', some out)) : out.time = s.time := by
  rcases f.process_cases s with ⟨-, hprocess⟩ | ⟨source, -, -, hprocess⟩
  · rw [hprocess] at h
    cases h
  · rw [hprocess] at h
    rcases of_emit_eq_some (congrArg Prod.snd h) with rfl | ⟨e, rfl⟩
    · rfl
    · rfl

theorem Fallback.sources_process (f : Fallback ν) (s : Signal ν) :
    (f.process s).1.sources = f.sources := by
  rcases f.process_cases s with ⟨-, hprocess⟩ | ⟨source, -, -, hprocess⟩
  · rw [hprocess]
  · rw [hprocess]
    exact f.sources_store source s

theorem OrderGuard.eq_of_process {g g' : OrderGuard} {s out : Signal ν}
    (h : g.process s = (g', some out)) : out = s := by
  rw [process] at h
  split at h
  · cases h
    rfl
  · split at h
    · cases h
    · cases h
      rfl

/-! ## Chains -/

variable [Scalar ν]

namespace SensorChain

/-- A chain that gives nothing watches on as it did. -/
theorem process_none {c c' : SensorChain ν} {reading : Signal ν}
    (h : c.process reading = (c', none)) : c'.order = c.order ∧ c'.silence = c.silence := by
  rw [process] at h
  cases hf : c.fallback.process reading with
  | mk fallback picked =>
      rw [hf] at h
      cases picked with
      | none =>
          cases h
          exact ⟨rfl, rfl⟩
      | some picked =>
          dsimp only at h
          cases ho : c.order.process (c.median.process picked).2 with
          | mk order ordered =>
              rw [ho] at h
              cases ordered with
              | none =>
                  cases h
                  exact ⟨OrderGuard.process_none ho, rfl⟩
              | some ordered => cases h

/-- What comes out of a chain is a failure, or a value that is later than the last one.  It ends a
silence. -/
theorem process_some {c c' : SensorChain ν} {reading out : Signal ν}
    (h : c.process reading = (c', some out)) :
    ((out.value? = none ∧ c'.order.last = c.order.last) ∨
      (out.time.IsAfter c.order.last ∧ c'.order.last = some out.time)) ∧
    c'.silence = c.silence.observe out := by
  rw [process] at h
  cases hf : c.fallback.process reading with
  | mk fallback picked =>
      rw [hf] at h
      cases picked with
      | none => cases h
      | some picked =>
          dsimp only at h
          cases ho : c.order.process (c.median.process picked).2 with
          | mk order ordered =>
              rw [ho] at h
              cases ordered with
              | none => cases h
              | some ordered =>
                  cases h
                  exact ⟨OrderGuard.process_some ho, rfl⟩

/-- What comes out of a chain has the time of what went in. -/
theorem time_of_process {c c' : SensorChain ν} {reading out : Signal ν}
    (h : c.process reading = (c', some out)) : out.time = reading.time := by
  rw [process] at h
  cases hf : c.fallback.process reading with
  | mk fallback picked =>
      rw [hf] at h
      cases picked with
      | none => cases h
      | some picked =>
          dsimp only at h
          cases ho : c.order.process (c.median.process picked).2 with
          | mk order ordered =>
              rw [ho] at h
              cases ordered with
              | none => cases h
              | some ordered =>
                  cases h
                  have htime : picked.time = reading.time := Fallback.time_of_process hf
                  rw [OrderGuard.eq_of_process ho]
                  exact htime

omit [Scalar ν] in
theorem time_of_check {c c' : SensorChain ν} {now : Instant} {report : Signal ν}
    (h : c.check now = (c', some report)) : report.time = now := by
  have hreport : (c.silence.check now).2 = some report := congrArg Prod.snd h
  exact SilenceGuard.time_of_check (Prod.ext rfl hreport)

/-! ## What a chain is known by -/

/-- What a chain measures for, and its sources. -/
def label (c : SensorChain ν) : String × List String := (c.name, c.sources)

omit [Scalar ν] in
theorem label_check (c : SensorChain ν) (now : Instant) : (c.check now).1.label = c.label :=
  congrArg (·, c.sources) (c.silence.check_rest now).1

theorem label_process (c : SensorChain ν) (reading : Signal ν) :
    (c.process reading).1.label = c.label := by
  have hsources := c.fallback.sources_process reading
  rw [process]
  cases hf : c.fallback.process reading with
  | mk fallback picked =>
      rw [hf] at hsources
      cases picked with
      | none => exact congrArg (c.name, ·) hsources
      | some picked =>
          dsimp only
          cases c.order.process (c.median.process picked).2 with
          | mk order ordered =>
              cases ordered with
              | none => exact congrArg (c.name, ·) hsources
              | some ordered => exact congrArg (c.name, ·) hsources

end SensorChain

end HomeClimate
