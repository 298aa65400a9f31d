import HomeClimate.Control.Pid
import HomeClimate.Proofs.Number.Equality
import HomeClimate.Proofs.Outcome
import Mathlib.Data.List.Induction

/-!
# The limit of the integral term

A PID controller takes an integral term over only if it is below the limit, and otherwise
keeps the one that it has.  The gains and the setpoint may be changed in between.  A gain
leaves the term alone, and a setpoint at most sets it to zero, so the term stays below the
limit that it was compared with.

The limit itself may be changed too, and `setLimit` does not look at the term.  A limit that
is set at or below the term stays there (`IsOvertaken`) until a new term is taken over or
the term is set to zero.  That is the only way for the term not to be below a positive
limit (`integral_below_limit`).  A term of one is not cut down when the limit becomes a
half (`term_above_new_limit`).

All calls count: those that are refused change nothing, and a sample counts for what it
leaves behind even if the controller is given up on.
-/

namespace HomeClimate

variable {ν : Type} [Scalar ν]

/-- A scalar whose zero has no magnitude, and in which nothing above zero is equal to it. -/
class LawfulZero (ν : Type) [Scalar ν] : Prop where
  abs_zero : Scalar.abs (0 : ν) = 0
  beq_zero_of_pos {x : ν} : 0 < x → (x == 0) = false

instance : LawfulZero Rat where
  abs_zero := rfl
  beq_zero_of_pos hx := beq_eq_false_iff_ne.mpr (ne_of_gt hx)

instance : LawfulZero Float where
  abs_zero := rfl
  beq_zero_of_pos {x} hx := by
    rw [← Bool.not_eq_true]
    intro hzero
    have hself : (0 : Float) < 0 := ((Double.lt_iff_of_beq hzero 0).2).mp hx
    exact absurd hself (by decide +kernel)

/-! ## Calls -/

/-- What can be done to a PID controller. -/
inductive PidCall (ν : Type) where
  /-- It takes a sample. -/
  | sample (sample : Signal ν)
  /-- It is to have another setpoint. -/
  | setpoint (setpoint : ν)
  /-- It is to have another proportional gain. -/
  | p (gain : ν)
  /-- It is to have another integral gain. -/
  | i (gain : ν)
  /-- It is to have another derivative gain. -/
  | d (gain : ν)
  /-- It is to have another limit. -/
  | limit (limit : ν)
  /-- Its integral is to start anew on a setpoint change, or not. -/
  | resets (resets : Bool)

namespace Pid

/-- The controller after a sample, as it is left even by a fault. -/
def afterSample (c : Pid ν) (sample : Signal ν) : Pid ν :=
  match sample.value? with
  | none => c
  | some v => (c.attempt sample.time v).1

/-- The controller after a call.  A call that is refused changes nothing. -/
def after (c : Pid ν) : PidCall ν → Pid ν
  | .sample sample => c.afterSample sample
  | .setpoint setpoint => (c.setSetpoint setpoint).toOption.getD c
  | .p gain => (c.setP gain).toOption.getD c
  | .i gain => (c.setI gain).toOption.getD c
  | .d gain => (c.setD gain).toOption.getD c
  | .limit limit => (c.setLimit limit).toOption.getD c
  | .resets resets => c.setResets resets

/-- The controller after some calls. -/
def run (c : Pid ν) (calls : List (PidCall ν)) : Pid ν := calls.foldl after c

@[simp] theorem run_nil (c : Pid ν) : c.run [] = c := rfl

@[simp] theorem run_concat (c : Pid ν) (calls : List (PidCall ν)) (call : PidCall ν) :
    c.run (calls ++ [call]) = (c.run calls).after call := by
  simp [run]

/-! ## What becomes of the integral term -/

/-- The three ways in which an error is integrated. -/
theorem of_integrate_eq_ok {c : Pid ν} {now : Instant} {error : ν} {w : SlidingIntegral ν}
    {term : ν} (h : c.integrate now error = .ok (w, term)) :
    ((c.settings.limit == 0) = true ∧ c.integral.append now error = .ok w ∧
        term = w.sum * c.settings.i) ∨
      ((c.settings.limit == 0) = false ∧ c.isUnsaturated = true ∧
        c.integral.append now error = .ok w ∧
        term = if Scalar.abs (w.sum * c.settings.i) < c.settings.limit then w.sum * c.settings.i
          else c.terms.i) ∨
      ((c.settings.limit == 0) = false ∧ c.isUnsaturated = false ∧
        c.integral.append now 0 = .ok w ∧ term = c.terms.i) := by
  rw [integrate] at h
  split at h
  next hzero =>
    obtain ⟨w', hw, hpair⟩ := Outcome.of_map_eq_ok h
    cases hpair
    exact Or.inl ⟨hzero, hw, rfl⟩
  next hlimit =>
    rw [Bool.not_eq_true] at hlimit
    split at h
    next hbelow =>
      obtain ⟨w', hw, hpair⟩ := Outcome.of_map_eq_ok h
      cases hpair
      exact Or.inr (Or.inl ⟨hlimit, hbelow, hw, rfl⟩)
    next habove =>
      rw [Bool.not_eq_true] at habove
      obtain ⟨w', hw, hpair⟩ := Outcome.of_map_eq_ok h
      cases hpair
      exact Or.inr (Or.inr ⟨hlimit, habove, hw, rfl⟩)

/-- A term that is taken over under a limit is below it. -/
theorem integrate_term {c : Pid ν} {now : Instant} {error : ν} {w : SlidingIntegral ν} {term : ν}
    (h : c.integrate now error = .ok (w, term)) :
    term = c.terms.i ∨
      ((c.settings.limit == 0) = false → Scalar.abs term < c.settings.limit) := by
  rcases of_integrate_eq_ok h with ⟨hzero, -, -⟩ | ⟨-, -, -, rfl⟩ | ⟨-, -, -, hsame⟩
  · refine Or.inr ?_
    intro hlimit
    rw [hlimit] at hzero
    cases hzero
  · split
    next hbelow => exact Or.inr fun _ => hbelow
    next => exact Or.inl rfl
  · exact Or.inl hsame

/-- What a value does when it is weighed. -/
theorem of_weigh_eq_ok {c c' : Pid ν} {now : Instant} {value : ν} (h : c.weigh now value = .ok c') :
    ∃ w term, c.integrate now (value - c.loop.setpoint) = .ok (w, term) ∧
      c' = { c with
        loop := c.loop.record now value
        integral := w
        slope := c.slope.append now value
        terms := ⟨(value - c.loop.setpoint) * c.settings.p, term,
          derivativeTerm c.settings.d (c.slope.append now value).slope⟩ } := by
  simp only [weigh] at h
  split at h
  · split at h
    · cases h
    · obtain ⟨r, hr, h⟩ := Outcome.of_bind_eq_ok h
      cases h
      exact ⟨r.1, r.2, hr, rfl⟩
  · obtain ⟨r, hr, h⟩ := Outcome.of_bind_eq_ok h
    cases h
    exact ⟨r.1, r.2, hr, rfl⟩

/-- What becomes of the integral term: it is kept, or a positive limit is above it. -/
def KeepsTerm (c c' : Pid ν) : Prop :=
  c'.settings.limit = c.settings.limit ∧
    (c'.terms.i = c.terms.i ∨ (0 < c'.settings.limit → Scalar.abs c'.terms.i < c'.settings.limit))

theorem keepsTerm_attempt [LawfulZero ν] (c : Pid ν) (now : Instant) (value : ν) :
    c.KeepsTerm (c.attempt now value).1 := by
  rw [attempt]
  cases hw : c.weigh now value with
  | error f => exact ⟨rfl, Or.inl rfl⟩
  | ok c' =>
      obtain ⟨w, term, hintegrate, heq⟩ := of_weigh_eq_ok hw
      have hkeeps : c.KeepsTerm c' := by
        rw [heq]
        refine ⟨rfl, ?_⟩
        rcases integrate_term hintegrate with hsame | hbelow
        · exact Or.inl hsame
        · refine Or.inr ?_
          intro hpos
          exact hbelow (LawfulZero.beq_zero_of_pos hpos)
      dsimp only
      split
      · exact hkeeps
      · exact hkeeps

theorem keepsTerm_afterSample [LawfulZero ν] (c : Pid ν) (sample : Signal ν) :
    c.KeepsTerm (c.afterSample sample) := by
  rw [afterSample]
  split
  · exact ⟨rfl, Or.inl rfl⟩
  · exact keepsTerm_attempt c _ _

theorem keepsTerm_setSetpoint [LawfulZero ν] {c c' : Pid ν} {setpoint : ν}
    (h : c.setSetpoint setpoint = .ok c') : c.KeepsTerm c' := by
  obtain ⟨moved, -, h⟩ := Outcome.of_bind_eq_ok h
  rw [← Except.ok.inj h]
  split
  · refine ⟨rfl, Or.inr ?_⟩
    intro hpos
    show Scalar.abs (0 : ν) < c.settings.limit
    rw [LawfulZero.abs_zero]
    exact hpos
  · exact ⟨rfl, Or.inl rfl⟩

theorem of_reconfigure_eq_ok {c c' : Pid ν} {settings : PidSettings ν}
    (h : c.reconfigure settings = .ok c') : c' = { c with settings } := by
  obtain ⟨_, -, h⟩ := Outcome.of_bind_eq_ok h
  exact (Except.ok.inj h).symm

/-- A call that is not for a sample and not for a setpoint is for other settings, and does nothing
else. -/
theorem exists_settings_after (c : Pid ν) (call : PidCall ν) (hsample : ∀ s, call ≠ .sample s)
    (hsetpoint : ∀ x, call ≠ .setpoint x) : ∃ settings, c.after call = { c with settings } := by
  have hreconfigure : ∀ settings : PidSettings ν,
      ∃ settings', (c.reconfigure settings).toOption.getD c = { c with settings := settings' } := by
    intro settings
    cases h : c.reconfigure settings with
    | error e => exact ⟨c.settings, rfl⟩
    | ok c' => exact ⟨settings, of_reconfigure_eq_ok h⟩
  cases call with
  | sample s => exact absurd rfl (hsample s)
  | setpoint x => exact absurd rfl (hsetpoint x)
  | p gain => exact hreconfigure _
  | i gain => exact hreconfigure _
  | d gain => exact hreconfigure _
  | limit limit => exact hreconfigure _
  | resets resets => exact ⟨_, rfl⟩

/-- Settings with the same limit leave the term and its limit. -/
theorem keepsTerm_reconfigure (c : Pid ν) {settings : PidSettings ν}
    (hlimit : settings.limit = c.settings.limit) :
    c.KeepsTerm ((c.reconfigure settings).toOption.getD c) := by
  cases h : c.reconfigure settings with
  | error e => exact ⟨rfl, Or.inl rfl⟩
  | ok c' =>
      cases of_reconfigure_eq_ok h
      exact ⟨hlimit, Or.inl rfl⟩

/-- A call keeps the term or takes one over that is below a positive limit, or it is for another
limit and is accepted. -/
theorem after_cases [LawfulZero ν] (c : Pid ν) (call : PidCall ν) :
    c.KeepsTerm (c.after call) ∨
      ∃ limit c', call = .limit limit ∧ c.setLimit limit = .ok c' ∧ c.after call = c' := by
  cases call with
  | sample sample => exact Or.inl (keepsTerm_afterSample c sample)
  | setpoint setpoint =>
      rw [after]
      cases h : c.setSetpoint setpoint with
      | error e => exact Or.inl ⟨rfl, Or.inl rfl⟩
      | ok c' => exact Or.inl (keepsTerm_setSetpoint h)
  | p gain => exact Or.inl (keepsTerm_reconfigure c rfl)
  | i gain => exact Or.inl (keepsTerm_reconfigure c rfl)
  | d gain => exact Or.inl (keepsTerm_reconfigure c rfl)
  | limit limit =>
      rw [after]
      cases h : c.setLimit limit with
      | error e => exact Or.inl ⟨rfl, Or.inl rfl⟩
      | ok c' => exact Or.inr ⟨limit, c', rfl, h, rfl⟩
  | resets resets => exact Or.inl ⟨rfl, Or.inl rfl⟩

/-! ## The limit -/

/-- After some calls a limit was accepted that was not above the integral term, and through all
calls since then the limit and the term have stayed what they were. -/
structure IsOvertaken (c : Pid ν) (before : List (PidCall ν)) (limit : ν)
    (since : List (PidCall ν)) : Prop where
  accepted : ∃ c', (c.run before).setLimit limit = .ok c'
  overtaken : ¬ Scalar.abs (c.run before).terms.i < limit
  stands : ∀ later, later <+: since →
    (c.run (before ++ .limit limit :: later)).settings.limit = limit ∧
      (c.run (before ++ .limit limit :: later)).terms.i = (c.run before).terms.i

/-- The calls came to a limit that is not above the term. -/
def HasOvertaken (c : Pid ν) (calls : List (PidCall ν)) : Prop :=
  ∃ before limit since, calls = before ++ .limit limit :: since ∧ c.IsOvertaken before limit since

/-- A limit that is set at or below the term is overtaken from the start. -/
theorem isOvertaken_nil {c c' : Pid ν} {before : List (PidCall ν)} {limit : ν}
    (haccepted : (c.run before).setLimit limit = .ok c')
    (habove : ¬ Scalar.abs (c.run before).terms.i < limit) : c.IsOvertaken before limit [] := by
  refine ⟨⟨c', haccepted⟩, habove, ?_⟩
  intro later hlater
  have hrun : c.run (before ++ [.limit limit]) =
      { c.run before with settings := { (c.run before).settings with limit } } := by
    rw [run_concat, after, haccepted]
    exact of_reconfigure_eq_ok haccepted
  rw [List.prefix_nil.mp hlater, hrun]
  exact ⟨rfl, rfl⟩

/-- It stays so through a call that changes neither the limit nor the term. -/
theorem HasOvertaken.concat {c : Pid ν} {calls : List (PidCall ν)} (h : c.HasOvertaken calls)
    {call : PidCall ν}
    (hlimit : ((c.run calls).after call).settings.limit = (c.run calls).settings.limit)
    (hterm : ((c.run calls).after call).terms.i = (c.run calls).terms.i) :
    c.HasOvertaken (calls ++ [call]) := by
  obtain ⟨before, limit, since, rfl, hsince⟩ := h
  refine ⟨before, limit, since ++ [call], by simp, hsince.accepted, hsince.overtaken, ?_⟩
  intro later hlater
  rcases List.prefix_concat_iff.mp hlater with rfl | hearlier
  · obtain ⟨hlimit', hterm'⟩ := hsince.stands since (List.prefix_refl since)
    rw [← List.cons_append, ← List.append_assoc, run_concat]
    exact ⟨hlimit.trans hlimit', hterm.trans hterm'⟩
  · exact hsince.stands later hearlier

/-- Whatever is done to a controller, a positive limit is above its integral term, unless that limit
was set at or below the term and neither of them has changed since. -/
theorem integral_below_limit [LawfulZero ν] {name : String} {setpoint : ν}
    {settings : PidSettings ν} {c : Pid ν} (hcreate : create name setpoint settings = .ok c)
    (calls : List (PidCall ν)) (hpos : 0 < (c.run calls).settings.limit) :
    Scalar.abs (c.run calls).terms.i < (c.run calls).settings.limit ∨ c.HasOvertaken calls := by
  induction calls using List.reverseRecOn with
  | nil =>
      obtain ⟨_, -, hcreate⟩ := Outcome.of_bind_eq_ok hcreate
      obtain ⟨loop, -, hcreate⟩ := Outcome.of_bind_eq_ok hcreate
      cases hcreate
      refine Or.inl ?_
      show Scalar.abs (0 : ν) < settings.limit
      rw [LawfulZero.abs_zero]
      exact hpos
  | append_singleton calls call ih =>
      rw [run_concat] at hpos ⊢
      rcases (c.run calls).after_cases call with ⟨hlimit, hterm⟩ | ⟨limit, c', rfl, haccepted, heq⟩
      · rcases hterm with hsame | hbelow
        · rw [hlimit] at hpos
          rcases ih hpos with hbelow | hovertaken
          · rw [hsame, hlimit]
            exact Or.inl hbelow
          · exact Or.inr (hovertaken.concat hlimit hsame)
        · exact Or.inl (hbelow hpos)
      · have hnew := of_reconfigure_eq_ok haccepted
        rw [heq, hnew]
        by_cases habove : Scalar.abs (c.run calls).terms.i < limit
        · exact Or.inl habove
        · exact Or.inr ⟨calls, limit, [], rfl, isOvertaken_nil haccepted habove⟩

/-- A limit that is refused and one that is raised leave the integral term below the limit. -/
theorem integral_below_limit_of_den :
    let calls : List (PidCall Float) :=
      [.sample (.healthy (.ofEpoch 0 0) 21), .sample (.healthy (.ofEpoch 1 0) 20.5),
       .sample (.healthy (.ofEpoch 2 0) 20.5), .limit (-1),
       .sample (.failure (.ofEpoch 3 0) none (.sensor "gone")), .limit 5]
    ∃ c : Pid Float, create "den" 20 (.ofGains 1 1 0 2) = .ok c ∧
      0 < (c.run calls).settings.limit ∧
      (Scalar.abs (c.run calls).terms.i < (c.run calls).settings.limit ∨ c.HasOvertaken calls) := by
  intro calls
  have hruns : Outcome.holds (create "den" (20 : Float) (.ofGains 1 1 0 2)) (fun c =>
      decide (0 < (c.run calls).settings.limit)) = true := by decide +kernel
  obtain ⟨c, hc, htest⟩ := Outcome.exists_of_holds hruns
  have hpos := of_decide_eq_true htest
  exact ⟨c, hc, hpos, integral_below_limit hc calls hpos⟩

/-- Without a limit the integral term comes to one.  A limit of a half is set then and accepted, and
the term stays one. -/
theorem term_above_new_limit :
    let calls : List (PidCall Float) :=
      [.sample (.healthy (.ofEpoch 0 0) 21), .sample (.healthy (.ofEpoch 1 0) 21), .limit 0.5]
    ∃ c : Pid Float, create "den" 20 (.ofGains 1 1 0 0) = .ok c ∧
      0 < (c.run calls).settings.limit ∧
      ¬ Scalar.abs (c.run calls).terms.i < (c.run calls).settings.limit := by
  intro calls
  have hruns : Outcome.holds (create "den" (20 : Float) (.ofGains 1 1 0 0)) (fun c =>
      decide (0 < (c.run calls).settings.limit ∧
        ¬ Scalar.abs (c.run calls).terms.i < (c.run calls).settings.limit)) = true := by
    decide +kernel
  obtain ⟨c, hc, htest⟩ := Outcome.exists_of_holds hruns
  exact ⟨c, hc, of_decide_eq_true htest⟩

end Pid

end HomeClimate
