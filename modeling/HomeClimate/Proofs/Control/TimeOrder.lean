import HomeClimate.Control.Pid
import HomeClimate.Proofs.Outcome
import HomeClimate.Proofs.Time.Order

/-!
# Controllers and the order of time

A PID controller is given up on when a sample is not later than the one before, and
so is the window of its integral.  The two do not keep the same time: the window
is emptied when the setpoint changes, and a sample whose signal is no number
is kept by both.

`Pid.SeenUpTo` bounds both times at once.  A sample that is later than the bound
cannot break the order, and the time of the sample is the next bound
(`SeenUpTo.attempt`).
-/

namespace HomeClimate

variable {ν : Type}

/-- A fault that says that time went back. -/
def Fault.IsTimeOrder : Fault ν → Prop
  | .backInTime _ _ _ => True
  | .outOfSequence _ _ => True
  | .noSignal _ _ _ _ => False
  | .outOfRange => False

instance : (f : Fault ν) → Decidable f.IsTimeOrder
  | .backInTime _ _ _ => .isTrue trivial
  | .outOfSequence _ _ => .isTrue trivial
  | .noSignal _ _ _ _ => .isFalse id
  | .outOfRange => .isFalse id

/-- A fault that says that a control signal is no number. -/
def Fault.IsNoSignal : Fault ν → Prop
  | .noSignal _ _ _ _ => True
  | _ => False

/-- A fault that a controller may come to. -/
def Fault.IsOfController (f : Fault ν) : Prop := f.IsTimeOrder ∨ f.IsNoSignal

variable [Scalar ν]

/-! ## The integral -/

namespace SlidingIntegral

/-- What expires is never the last sample. -/
theorem expire_last (w : SlidingIntegral ν) (now : Instant) : (w.expire now).last = w.last := by
  unfold expire
  split <;> rfl

/-- A sample that is later than the last one is taken. -/
theorem append_of_after {w : SlidingIntegral ν} {now : Instant}
    (h : now.IsAfter (w.last.map Prod.fst)) (value : ν) :
    ∃ w', w.append now value = .ok w' ∧ w'.last = some (now, value) := by
  have harea : ∃ area, w.areaTo now value = .ok area := by
    rw [areaTo]
    cases hl : w.last with
    | none => exact ⟨0, rfl⟩
    | some s =>
        have hlt : s.1 < now := h s.1 (by rw [hl]; rfl)
        exact ⟨_, if_pos hlt⟩
  obtain ⟨area, harea⟩ := harea
  rw [append, harea]
  exact ⟨_, rfl, expire_last _ now⟩

/-- A window refuses a sample only for its time. -/
theorem append_error {w : SlidingIntegral ν} {now : Instant} {value : ν} {f : Fault ν}
    (h : w.append now value = .error f) : f.IsTimeOrder := by
  rw [append, areaTo] at h
  cases hl : w.last with
  | none =>
      rw [hl] at h
      cases h
  | some s =>
      rw [hl] at h
      dsimp only at h
      split at h
      · cases h
      · cases h
        exact trivial

end SlidingIntegral

/-! ## The controller -/

namespace Pid

omit [Scalar ν] in
/-- What a controller and its integral have seen is not later than a bound.  Without a bound they
have seen nothing. -/
structure SeenUpTo (c : Pid ν) (last : Option Instant) : Prop where
  sample : ∀ s, c.loop.sample = some s → ∃ t, last = some t ∧ s.1 ≤ t
  integral : ∀ s, c.integral.last = some s → ∃ t, last = some t ∧ s.1 ≤ t

omit [Scalar ν] in
/-- A later bound is a bound. -/
theorem SeenUpTo.later {c : Pid ν} {last : Option Instant} {now : Instant} (h : c.SeenUpTo last)
    (hnow : now.IsAfter last) : c.SeenUpTo (some now) := by
  have hle : ∀ s : Instant, (∃ t, last = some t ∧ s ≤ t) → ∃ t, some now = some t ∧ s ≤ t := by
    rintro s ⟨t, ht, hst⟩
    exact ⟨now, rfl, Instant.le_trans hst (Instant.le_of_lt (hnow t ht))⟩
  exact ⟨fun s hs => hle s.1 (h.sample s hs), fun s hs => hle s.1 (h.integral s hs)⟩

theorem seenUpTo_create {name : String} {setpoint : ν} {settings : PidSettings ν} {c : Pid ν}
    (h : create name setpoint settings = .ok c) (last : Option Instant) : c.SeenUpTo last := by
  obtain ⟨_, -, h⟩ := Outcome.of_bind_eq_ok h
  obtain ⟨loop, hloop, h⟩ := Outcome.of_bind_eq_ok h
  obtain ⟨_, -, hloop⟩ := Outcome.of_bind_eq_ok hloop
  cases hloop
  cases h
  exact ⟨fun s hs => (nomatch hs), fun s hs => (nomatch hs)⟩

/-- Another setpoint leaves the last sample, and at most empties the integral. -/
theorem SeenUpTo.setSetpoint {c c' : Pid ν} {last : Option Instant} {setpoint : ν}
    (h : c.SeenUpTo last) (hc : c.setSetpoint setpoint = .ok c') : c'.SeenUpTo last := by
  obtain ⟨moved, hmoved, hc⟩ := Outcome.of_bind_eq_ok hc
  obtain ⟨_, -, hmoved⟩ := Outcome.of_bind_eq_ok hmoved
  cases hmoved
  rw [← Except.ok.inj hc]
  split
  · exact ⟨h.sample, fun s hs => (nomatch hs)⟩
  · exact ⟨h.sample, h.integral⟩

/-- Every way to integrate takes the sample into the window. -/
theorem integrate_of_after {c : Pid ν} {now : Instant}
    (h : now.IsAfter (c.integral.last.map Prod.fst)) (error : ν) :
    ∃ w term, c.integrate now error = .ok (w, term) ∧ ∃ v, w.last = some (now, v) := by
  obtain ⟨w, hw, hlast⟩ := SlidingIntegral.append_of_after h error
  obtain ⟨w₀, hw₀, hlast₀⟩ := SlidingIntegral.append_of_after h 0
  rw [integrate]
  by_cases hlimit : (c.settings.limit == 0) = true
  · rw [if_pos hlimit, hw]
    exact ⟨w, _, rfl, error, hlast⟩
  · rw [if_neg hlimit]
    by_cases hsat : c.isUnsaturated = true
    · rw [if_pos hsat, hw]
      exact ⟨w, _, rfl, error, hlast⟩
    · rw [if_neg hsat, hw₀]
      exact ⟨w₀, _, rfl, 0, hlast₀⟩

/-- A value that is later than all that was seen is weighed. -/
theorem weigh_of_after {c : Pid ν} {last : Option Instant} {now : Instant} (h : c.SeenUpTo last)
    (hnow : now.IsAfter last) (value : ν) :
    ∃ c', c.weigh now value = .ok c' ∧ c'.SeenUpTo (some now) := by
  have hsample : now.IsAfter (c.loop.sample.map Prod.fst) := by
    intro t ht
    obtain ⟨s, hs, rfl⟩ := Option.map_eq_some_iff.mp ht
    obtain ⟨t, hlast, hle⟩ := h.sample s hs
    exact Instant.lt_of_le_of_lt hle (hnow t hlast)
  have hintegral : now.IsAfter (c.integral.last.map Prod.fst) := by
    intro t ht
    obtain ⟨s, hs, rfl⟩ := Option.map_eq_some_iff.mp ht
    obtain ⟨t, hlast, hle⟩ := h.integral s hs
    exact Instant.lt_of_le_of_lt hle (hnow t hlast)
  obtain ⟨w, term, hw, v, hv⟩ := integrate_of_after hintegral (value - c.loop.setpoint)
  have hseen : ∀ slope terms, SeenUpTo
      { c with loop := c.loop.record now value, integral := w, slope, terms } (some now) := by
    intro slope terms
    refine ⟨fun s hs => ⟨now, rfl, ?_⟩, fun s hs => ⟨now, rfl, ?_⟩⟩
    · rw [← Option.some.inj hs]
      exact Instant.le_refl now
    · rw [hv] at hs
      rw [← Option.some.inj hs]
      exact Instant.le_refl now
  rw [weigh]
  cases hs : c.loop.sample with
  | none =>
      simp only [hw]
      exact ⟨_, rfl, hseen _ _⟩
  | some s =>
      have hlt : s.1 < now := hsample s.1 (by rw [hs]; rfl)
      simp only [hlt, not_true_eq_false, if_false, hw]
      exact ⟨_, rfl, hseen _ _⟩

/-- A value that is later than all that was seen does not break the order of time, and its time is
the next bound. -/
theorem SeenUpTo.attempt {c : Pid ν} {last : Option Instant} {now : Instant} (h : c.SeenUpTo last)
    (hnow : now.IsAfter last) (value : ν) :
    (c.attempt now value).1.SeenUpTo (some now) ∧
      ∀ f, (c.attempt now value).2 = .error f → ¬ f.IsTimeOrder := by
  obtain ⟨c', hc', hseen⟩ := weigh_of_after h hnow value
  rw [Pid.attempt, hc']
  dsimp only
  split
  · refine ⟨hseen, fun f hf => ?_⟩
    cases hf
    exact id
  · exact ⟨⟨hseen.sample, hseen.integral⟩, fun f hf => nomatch hf⟩

/-! ### Every fault of a controller -/

theorem integrate_error {c : Pid ν} {now : Instant} {error : ν} {f : Fault ν}
    (h : c.integrate now error = .error f) : f.IsTimeOrder := by
  have hmap : ∀ (value : ν) (g : SlidingIntegral ν → SlidingIntegral ν × ν),
      (c.integral.append now value).map g = .error f → f.IsTimeOrder := by
    intro value g hg
    cases ha : c.integral.append now value with
    | ok w =>
        rw [ha] at hg
        cases hg
    | error f' =>
        rw [ha] at hg
        cases hg
        exact SlidingIntegral.append_error ha
  rw [integrate] at h
  split at h
  · exact hmap _ _ h
  · split at h
    · exact hmap _ _ h
    · exact hmap _ _ h

theorem weigh_error {c : Pid ν} {now : Instant} {value : ν} {f : Fault ν}
    (h : c.weigh now value = .error f) : f.IsTimeOrder := by
  simp only [weigh] at h
  cases hi : c.integrate now (value - c.loop.setpoint) with
  | error f' =>
      have hf' := integrate_error hi
      simp only [hi] at h
      split at h
      · split at h
        · cases h
          exact trivial
        · cases h
          exact hf'
      · cases h
        exact hf'
  | ok weighed =>
      simp only [hi] at h
      split at h
      · split at h
        · cases h
          exact trivial
        · cases h
      · cases h

/-- A controller is given up on for the order of time or for a signal that is no number, and for
nothing else. -/
theorem attempt_error {c : Pid ν} {now : Instant} {value : ν} {f : Fault ν}
    (h : (c.attempt now value).2 = .error f) : f.IsOfController := by
  rw [attempt] at h
  cases hw : c.weigh now value with
  | error f' =>
      rw [hw] at h
      cases h
      exact .inl (weigh_error hw)
  | ok c' =>
      rw [hw] at h
      dsimp only at h
      split at h
      · cases h
        exact .inr trivial
      · cases h

end Pid

end HomeClimate
