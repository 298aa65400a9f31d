import HomeClimate.Proofs.Control.Answers
import HomeClimate.Proofs.Control.SlidingArea

/-!
# What a sample does to the integral

The integral of a PID controller is two things: a window of errors, and the integral term
that was taken over last.  A sample moves the one and may leave the other.

* One sample enters the window, at the time of the sample, whatever the limit.  So the
  window always ends with the last sample that had a value.
* What enters is the error.  It is zero if there is a positive limit that the last control
  signal was not below, or no control signal yet.
* The term becomes the area of the window times its gain if the limit is zero, or if the
  last control signal and this product are below the limit.  Otherwise the term stays.

The last control signal contains the term.  `Pid.Integrates` says all this of one sample.
A window into which nothing but errors has come is the window of the errors
(`IsWindowOf`), and so it is as long as the limit has been zero since the integral was new.
`Pid.integrates_by_limit` is about whole runs, with setpoints, gains and limits that
change at any time.

A sample that has failed does nothing.  Those that have values must come in order, or the
controller is given up on.
-/

namespace HomeClimate

variable {ν : Type}

/-- The time of a sample that has a value. -/
def Signal.valueTime? {α : Type} (s : Signal α) : Option Instant := s.value?.map fun _ => s.time

/-- The time of a sample that has a value, if a call brings one. -/
def PidCall.valueTime? : PidCall ν → Option Instant
  | .sample s => s.valueTime?
  | _ => none

/-- Times of the clock, each later than those before it. -/
structure Instant.AreIncreasing (times : List Instant) : Prop where
  increasing : times.Pairwise (· < ·)
  valid : ∀ t ∈ times, t.time.isValid = true

namespace Instant

theorem AreIncreasing.left {times more : List Instant} (h : AreIncreasing (times ++ more)) :
    AreIncreasing times where
  increasing := (List.pairwise_append.mp h.increasing).1
  valid t ht := h.valid t (List.mem_append_left more ht)

theorem AreIncreasing.lt_last {times : List Instant} {now : Instant}
    (h : AreIncreasing (times ++ [now])) : ∀ t ∈ times, t < now := by
  intro t ht
  exact (List.pairwise_append.mp h.increasing).2.2 t ht now List.mem_cons_self

end Instant

namespace Pid

variable [Scalar ν]

/-! ## The order of a run -/

/-- The times at which a run brings values. -/
def valueTimes (calls : List (PidCall ν)) : List Instant := calls.filterMap PidCall.valueTime?

omit [Scalar ν] in
theorem valueTimes_append (calls later : List (PidCall ν)) :
    valueTimes (calls ++ later) = valueTimes calls ++ valueTimes later :=
  List.filterMap_append

omit [Scalar ν] in
theorem valueTimes_concat (calls : List (PidCall ν)) (call : PidCall ν) :
    valueTimes (calls ++ [call]) = valueTimes calls ++ call.valueTime?.toList :=
  filterMap_concat PidCall.valueTime? calls call

omit [Scalar ν] in
theorem valueTimes_concat_of_none {calls : List (PidCall ν)} {call : PidCall ν}
    (h : call.valueTime? = none) : valueTimes (calls ++ [call]) = valueTimes calls := by
  rw [valueTimes_concat, h, Option.toList_none, List.append_nil]

omit [Scalar ν] in
theorem valueTimes_concat_of_value {calls : List (PidCall ν)} {sample : Signal ν} {value : ν}
    (h : sample.value? = some value) :
    valueTimes (calls ++ [.sample sample]) = valueTimes calls ++ [sample.time] := by
  rw [valueTimes_concat, PidCall.valueTime?, Signal.valueTime?, h]
  rfl

omit [Scalar ν] in
/-- A call brings no value, or it is a sample. -/
theorem valueTime?_cases (call : PidCall ν) :
    call.valueTime? = none ∨
      ∃ sample value, call = .sample sample ∧ sample.value? = some value := by
  cases call with
  | sample sample =>
      cases hvalue : sample.value? with
      | none => exact Or.inl (Option.map_eq_none_iff.mpr hvalue)
      | some value => exact Or.inr ⟨sample, value, rfl, hvalue⟩
  | _ => exact Or.inl rfl

/-- Whichever way an error is integrated something enters the window, and without a limit it is the
error. -/
theorem of_integrate_append {c : Pid ν} {now : Instant} {error : ν} {w : SlidingIntegral ν}
    {term : ν} (h : c.integrate now error = .ok (w, term)) :
    ∃ entry, c.integral.append now entry = .ok w ∧
      ((c.settings.limit == 0) = true → entry = error) := by
  rcases of_integrate_eq_ok h with ⟨-, happend, -⟩ | ⟨-, -, happend, -⟩ | ⟨hlimit, -, happend, -⟩
  · exact ⟨error, happend, fun _ => rfl⟩
  · exact ⟨error, happend, fun _ => rfl⟩
  · exact ⟨0, happend, fun hzero => nomatch hlimit.symm.trans hzero⟩

/-- A call that brings no value leaves the sample and at most empties the integral. -/
theorem SeenUpTo.after {c : Pid ν} {last : Option Instant} (h : c.SeenUpTo last)
    {call : PidCall ν} (hnone : call.valueTime? = none) : (c.after call).SeenUpTo last := by
  cases hcall : call with
  | sample sample =>
      rw [hcall] at hnone
      have hvalue : sample.value? = none := Option.map_eq_none_iff.mp hnone
      rw [Pid.after, afterSample, hvalue]
      exact h
  | setpoint setpoint =>
      rw [Pid.after]
      cases hc : c.setSetpoint setpoint with
      | error e => exact h
      | ok c' => exact h.setSetpoint hc
  | _ =>
      obtain ⟨settings, hsettings⟩ :=
        c.exists_settings_after call (by simp [hcall]) (by simp [hcall])
      rw [← hcall, hsettings]
      exact ⟨h.sample, h.integral⟩

/-- A value whose time is within the bound leaves the bound, whatever comes of it. -/
theorem SeenUpTo.attempt_of_le {c : Pid ν} {last now : Instant} (h : c.SeenUpTo (some last))
    (hle : now ≤ last) (value : ν) : (c.attempt now value).1.SeenUpTo (some last) := by
  cases hweigh : c.weigh now value with
  | error f =>
      rw [Pid.attempt, hweigh]
      exact h
  | ok c' =>
      rw [attempt_of_weigh hweigh]
      obtain ⟨w, term, hintegrate, rfl⟩ := of_weigh_eq_ok hweigh
      obtain ⟨entry, happend, -⟩ := of_integrate_append hintegrate
      refine ⟨fun s hs => ⟨last, rfl, ?_⟩, fun s hs => ⟨last, rfl, ?_⟩⟩
      · rw [← Option.some.inj hs]
        exact hle
      · rw [SlidingIntegral.last_append happend] at hs
        rw [← Option.some.inj hs]
        exact hle

omit [Scalar ν] in
/-- What a controller has seen is not later than all of some times. -/
def SeenBy (c : Pid ν) (times : List Instant) : Prop :=
  ∃ last, c.SeenUpTo last ∧ ∀ t, last = some t → t ∈ times

omit [Scalar ν] in
theorem SeenBy.isAfter {c : Pid ν} {times : List Instant} (h : c.SeenBy times) {now : Instant}
    (hnow : ∀ t ∈ times, t < now) : ∃ last, c.SeenUpTo last ∧ now.IsAfter last := by
  obtain ⟨last, hseen, hmem⟩ := h
  exact ⟨last, hseen, fun t ht => hnow t (hmem t ht)⟩

/-- What a controller has seen after one more call, is by the time of its value too. -/
theorem SeenBy.after {c : Pid ν} {times : List Instant} (h : c.SeenBy times) (call : PidCall ν) :
    (c.after call).SeenBy (times ++ call.valueTime?.toList) := by
  obtain ⟨last, hseen, hmem⟩ := h
  rcases valueTime?_cases call with hnone | ⟨sample, value, rfl, hvalue⟩
  · rw [hnone, Option.toList_none, List.append_nil]
    exact ⟨last, hseen.after hnone, hmem⟩
  · rw [PidCall.valueTime?, Signal.valueTime?, hvalue, Pid.after, afterSample, hvalue]
    by_cases hnow : sample.time.IsAfter last
    · exact ⟨some sample.time, (hseen.attempt hnow value).1, by simp⟩
    · obtain ⟨t, ht⟩ := not_forall.mp hnow
      obtain ⟨rfl, hle⟩ := Classical.not_imp.mp ht
      refine ⟨some t, hseen.attempt_of_le (Instant.not_lt.mp hle) value, ?_⟩
      intro t' ht'
      exact List.mem_append_left _ (hmem t' ht')

theorem seenBy_run {name : String} {setpoint : ν} {settings : PidSettings ν} {c : Pid ν}
    (hcreate : create name setpoint settings = .ok c) (calls : List (PidCall ν)) :
    (c.run calls).SeenBy (valueTimes calls) := by
  induction calls using List.reverseRecOn with
  | nil => exact ⟨none, seenUpTo_create hcreate none, nofun⟩
  | append_singleton calls call ih =>
      rw [run_concat, valueTimes_concat]
      exact ih.after call

/-! ## One sample -/

/-- There is a control signal, and it is below the limit. -/
def IsBelow (limit : ν) (output : Option ν) : Prop := ∃ x, output = some x ∧ Scalar.abs x < limit

theorem isUnsaturated_iff (c : Pid ν) :
    c.isUnsaturated = true ↔ IsBelow c.settings.limit c.lastOutput := by
  rw [isUnsaturated]
  cases c.lastOutput with
  | none => exact iff_of_false Bool.false_ne_true fun ⟨x, hx, _⟩ => nomatch hx
  | some output =>
      refine decide_eq_true_iff.trans ⟨fun h => ⟨output, rfl, h⟩, ?_⟩
      rintro ⟨x, hx, hbelow⟩
      cases hx
      exact hbelow

/-- What a sample with an error does to the integral of a controller with a last control signal. -/
structure Integrates (c next : Pid ν) (output : Option ν) (now : Instant) (error : ν) : Prop where
  /-- Of the samples in the window those that are past leave, and this one enters. -/
  times : next.integral.times =
    c.integral.times.dropWhile (isPast c.integral.span now) ++ [now]
  error_enters : (c.settings.limit == 0) = true ∨ IsBelow c.settings.limit output →
    c.integral.append now error = .ok next.integral
  zero_enters : 0 < c.settings.limit → ¬ IsBelow c.settings.limit output →
    c.integral.append now 0 = .ok next.integral
  unlimited : (c.settings.limit == 0) = true → next.terms.i = next.integral.sum * c.settings.i
  taken : 0 < c.settings.limit → IsBelow c.settings.limit output →
    Scalar.abs (next.integral.sum * c.settings.i) < c.settings.limit →
      next.terms.i = next.integral.sum * c.settings.i
  kept : 0 < c.settings.limit →
    ¬ (IsBelow c.settings.limit output ∧
      Scalar.abs (next.integral.sum * c.settings.i) < c.settings.limit) →
    next.terms.i = c.terms.i

/-- What comes of a value that is in order: its error is integrated. -/
theorem integrate_of_value {c : Pid ν} {last : Option Instant} (h : c.SeenUpTo last)
    {sample : Signal ν} {value : ν} (hvalue : sample.value? = some value)
    (hnow : sample.time.IsAfter last) :
    c.integrate sample.time (value - c.loop.setpoint) =
      .ok ((c.after (.sample sample)).integral, (c.after (.sample sample)).terms.i) := by
  obtain ⟨c', hweigh, -⟩ := weigh_of_after h hnow value
  rw [after, afterSample, hvalue]
  dsimp only
  rw [attempt_of_weigh hweigh]
  obtain ⟨w, term, hintegrate, rfl⟩ := of_weigh_eq_ok hweigh
  exact hintegrate

theorem integrates_of_integrate [LawfulZero ν] {c next : Pid ν} {now : Instant} {error : ν}
    {entries : List (Sample ν)} (hwindow : c.integral.IsWindowOf entries)
    (hvalid : now.time.isValid = true)
    (h : c.integrate now error = .ok (next.integral, next.terms.i)) :
    c.Integrates next c.lastOutput now error := by
  have hpos : 0 < c.settings.limit → ¬ (c.settings.limit == 0) = true := by
    intro hpos
    rw [LawfulZero.beq_zero_of_pos hpos]
    exact Bool.false_ne_true
  have htimes : next.integral.times =
      c.integral.times.dropWhile (isPast c.integral.span now) ++ [now] := by
    obtain ⟨entry, happend, -⟩ := of_integrate_append h
    exact (hwindow.append hvalid happend).2
  have hbelow := c.isUnsaturated_iff
  rcases of_integrate_eq_ok h with ⟨hzero, happend, hterm⟩ | ⟨hlimit, hunsat, happend, hterm⟩ |
    ⟨hlimit, hsat, happend, hterm⟩
  · constructor
    case times => exact htimes
    case error_enters => exact fun _ => happend
    case zero_enters => exact fun h => absurd hzero (hpos h)
    case unlimited => exact fun _ => hterm
    case taken => exact fun h => absurd hzero (hpos h)
    case kept => exact fun h => absurd hzero (hpos h)
  · rw [hbelow] at hunsat
    constructor
    case times => exact htimes
    case error_enters => exact fun _ => happend
    case zero_enters => exact fun _ habove => absurd hunsat habove
    case unlimited => exact fun hzero => nomatch hlimit.symm.trans hzero
    case taken =>
      intro _ _ hterm'
      rw [hterm, if_pos hterm']
    case kept =>
      intro _ hkept
      rw [hterm, if_neg fun hterm' => hkept ⟨hunsat, hterm'⟩]
  · have habove : ¬ IsBelow c.settings.limit c.lastOutput := by
      rw [← hbelow, hsat]
      exact Bool.false_ne_true
    constructor
    case times => exact htimes
    case error_enters =>
      rintro (hzero | hunsat)
      · exact nomatch hlimit.symm.trans hzero
      · exact absurd hunsat habove
    case zero_enters => exact fun _ _ => happend
    case unlimited => exact fun hzero => nomatch hlimit.symm.trans hzero
    case taken => exact fun _ hunsat => absurd hunsat habove
    case kept => exact fun _ _ => hterm

/-! ## The window over a run -/

/-- Whether a call starts the integral anew: a setpoint that is accepted and is another one, where
that is to start it anew. -/
def restarts (c : Pid ν) : PidCall ν → Bool
  | .setpoint setpoint =>
    Scalar.isFinite setpoint && !(setpoint == c.loop.setpoint) && c.settings.resetsOnSetpoint
  | _ => false

/-- Calls that bring no value leave the window or, if they are to, start it anew. -/
theorem integral_after {c : Pid ν} {call : PidCall ν} (hnone : call.valueTime? = none) :
    (c.after call).integral = if c.restarts call then .empty c.integral.span else c.integral := by
  cases hcall : call with
  | sample sample =>
      rw [hcall] at hnone
      have hvalue : sample.value? = none := Option.map_eq_none_iff.mp hnone
      rw [after, afterSample, hvalue]
      rfl
  | setpoint setpoint =>
      rw [after, setSetpoint, ControlLoop.setSetpoint, ensureFinite, Scalar.finite, restarts]
      cases hfinite : Scalar.isFinite setpoint with
      | false => rfl
      | true =>
          rw [Bool.true_and]
          show Pid.integral (if !(setpoint == c.loop.setpoint) && c.settings.resetsOnSetpoint
            then _ else _) = _
          split <;> rfl
  | _ =>
      obtain ⟨settings, hsettings⟩ :=
        c.exists_settings_after call (by simp [hcall]) (by simp [hcall])
      rw [← hcall, hsettings, hcall]
      rfl

/-- The error of a value that a call brings, with its time. -/
def error? (c : Pid ν) : PidCall ν → Option (Sample ν)
  | .sample s => s.value?.map fun value => (s.time, value - c.loop.setpoint)
  | _ => none

theorem error?_of_none (c : Pid ν) {call : PidCall ν} (h : call.valueTime? = none) :
    c.error? call = none := by
  cases call with
  | sample sample =>
      have hvalue : sample.value? = none := Option.map_eq_none_iff.mp h
      rw [error?, hvalue]
      rfl
  | _ => rfl

/-- The errors of the values of a run. -/
def errors (c : Pid ν) (calls : List (PidCall ν)) : List (Sample ν) :=
  gathered after error? c calls

theorem errors_concat (c : Pid ν) (calls : List (PidCall ν)) (call : PidCall ν) :
    c.errors (calls ++ [call]) = c.errors calls ++ ((c.run calls).error? call).toList :=
  gathered_concat _ _ c calls call

/-- Through some calls since others the limit has been zero, and the integral was new when they
began. -/
structure IsUnlimitedSince (c : Pid ν) (before since : List (PidCall ν)) : Prop where
  /-- Nothing was done before, or the integral was started anew at last. -/
  fresh : before = [] ∨ ∃ earlier call,
    before = earlier ++ [call] ∧ (c.run earlier).restarts call = true
  lasts : ∀ p call, p ++ [call] <+: since → (c.run (before ++ p)).restarts call = false
  unlimited : ∀ p, p <+: since → ((c.run (before ++ p)).settings.limit == 0) = true

/-- What samples do to the integral over a run. -/
structure IntegratesByLimit (c : Pid ν) (calls : List (PidCall ν)) : Prop where
  sample : ∀ before sample value since, calls = before ++ .sample sample :: since →
    sample.value? = some value →
      (c.run before).Integrates ((c.run before).after (.sample sample)) (c.signals before).getLast?
        sample.time (value - (c.run before).loop.setpoint)
  failed : ∀ before sample since, calls = before ++ .sample sample :: since →
    sample.value? = none → (c.run before).after (.sample sample) = c.run before
  /-- The window keeps the span that it started with. -/
  span : (c.run calls).integral.span = c.settings.integralSpan
  plain : ∀ before since, calls = before ++ since → c.IsUnlimitedSince before since →
    (c.run calls).integral.IsWindowOf ((c.run before).errors since)

section Run

variable {name : String} {setpoint : ν} {settings : PidSettings ν} {c : Pid ν}

theorem integral_create (hcreate : create name setpoint settings = .ok c) :
    c.integral = .empty settings.integralSpan ∧ c.settings = settings ∧ c.lastOutput = none := by
  obtain ⟨_, -, hcreate⟩ := Outcome.of_bind_eq_ok hcreate
  obtain ⟨loop, -, hcreate⟩ := Outcome.of_bind_eq_ok hcreate
  cases hcreate
  exact ⟨rfl, rfl, rfl⟩

/-- The window of a run is a window of something, over the span that it started with. -/
theorem exists_isWindowOf_run (hcreate : create name setpoint settings = .ok c)
    {calls : List (PidCall ν)} (horder : Instant.AreIncreasing (valueTimes calls)) :
    (∃ entries, (c.run calls).integral.IsWindowOf entries) ∧
      (c.run calls).integral.span = settings.integralSpan := by
  induction calls using List.reverseRecOn with
  | nil =>
      rw [run_nil, (integral_create hcreate).1]
      exact ⟨⟨[], SlidingIntegral.isWindowOf_empty _⟩, rfl⟩
  | append_singleton calls call ih =>
      rw [run_concat]
      rcases valueTime?_cases call with hnone | ⟨sample, value, rfl, hvalue⟩
      · rw [valueTimes_concat_of_none hnone] at horder
        obtain ⟨hwindow, hspan⟩ := ih horder
        rw [integral_after hnone]
        split
        · exact ⟨⟨[], SlidingIntegral.isWindowOf_empty _⟩, hspan⟩
        · exact ⟨hwindow, hspan⟩
      · rw [valueTimes_concat_of_value hvalue] at horder
        obtain ⟨⟨entries, hwindow⟩, hspan⟩ := ih horder.left
        obtain ⟨last, hseen, hnow⟩ := (seenBy_run hcreate calls).isAfter horder.lt_last
        have hvalid := horder.valid sample.time (by simp)
        obtain ⟨entry, happend, -⟩ := of_integrate_append (integrate_of_value hseen hvalue hnow)
        exact ⟨⟨_, (hwindow.append hvalid happend).1⟩,
          (SlidingIntegral.span_append happend).trans hspan⟩

theorem IsUnlimitedSince.left {before since : List (PidCall ν)} {call : PidCall ν}
    (h : c.IsUnlimitedSince before (since ++ [call])) : c.IsUnlimitedSince before since where
  fresh := h.fresh
  lasts p call' hp := h.lasts p call' (hp.trans (List.prefix_append since [call]))
  unlimited p hp := h.unlimited p (hp.trans (List.prefix_append since [call]))

/-- While there has been no limit since it was new, the window is that of the errors. -/
theorem isWindowOf_errors (hcreate : create name setpoint settings = .ok c)
    {before since : List (PidCall ν)}
    (horder : Instant.AreIncreasing (valueTimes (before ++ since)))
    (h : c.IsUnlimitedSince before since) :
    (c.run (before ++ since)).integral.IsWindowOf ((c.run before).errors since) := by
  induction since using List.reverseRecOn with
  | nil =>
      have hnew : ∃ span, (c.run before).integral = .empty span := by
        rcases h.fresh with rfl | ⟨earlier, call, rfl, hrestarts⟩
        · exact ⟨_, (integral_create hcreate).1⟩
        · rcases valueTime?_cases call with hnone | ⟨sample, value, rfl, -⟩
          · rw [run_concat, integral_after hnone, if_pos hrestarts]
            exact ⟨_, rfl⟩
          · cases hrestarts
      obtain ⟨span, hspan⟩ := hnew
      rw [List.append_nil, hspan]
      exact SlidingIntegral.isWindowOf_empty span
  | append_singleton since call ih =>
      rw [← List.append_assoc] at horder ⊢
      have hrun : (c.run before).run since = c.run (before ++ since) := by
        rw [run, run, run, List.foldl_append]
      rw [run_concat, errors_concat, hrun]
      rcases valueTime?_cases call with hnone | ⟨sample, value, rfl, hvalue⟩
      · rw [valueTimes_concat_of_none hnone] at horder
        have hlasts := h.lasts since call (List.prefix_refl _)
        rw [integral_after hnone, hlasts, error?_of_none _ hnone, Option.toList_none,
          List.append_nil]
        exact ih horder h.left
      · rw [valueTimes_concat_of_value hvalue] at horder
        have hwindow := ih horder.left h.left
        obtain ⟨last, hseen, hnow⟩ := (seenBy_run hcreate _).isAfter horder.lt_last
        have hvalid := horder.valid sample.time (by simp)
        obtain ⟨entry, happend, hentry⟩ :=
          of_integrate_append (integrate_of_value hseen hvalue hnow)
        rw [hentry (h.unlimited since (List.prefix_append since _))] at happend
        rw [error?, hvalue]
        exact (hwindow.append hvalid happend).1

/-- In whatever state a run is in which values come in order, a sample does to the integral what the
limit and the last control signal say, and as long as there has been no limit the window is that of
the errors. -/
theorem integrates_by_limit [LawfulZero ν] (hcreate : create name setpoint settings = .ok c)
    {calls : List (PidCall ν)} (horder : Instant.AreIncreasing (valueTimes calls)) :
    c.IntegratesByLimit calls := by
  obtain ⟨-, hsettings, houtput⟩ := integral_create hcreate
  constructor
  case sample =>
    rintro before sample value since rfl hvalue
    rw [← List.singleton_append, ← List.append_assoc, valueTimes_append,
      valueTimes_concat_of_value hvalue] at horder
    have hbefore := horder.left
    obtain ⟨⟨entries, hwindow⟩, -⟩ := exists_isWindowOf_run hcreate hbefore.left
    obtain ⟨last, hseen, hnow⟩ := (seenBy_run hcreate before).isAfter hbefore.lt_last
    have hvalid := hbefore.valid sample.time (by simp)
    rw [← lastOutput_run houtput]
    exact integrates_of_integrate hwindow hvalid (integrate_of_value hseen hvalue hnow)
  case failed =>
    rintro before sample since - hvalue
    rw [after, afterSample, hvalue]
  case span =>
    rw [hsettings]
    exact (exists_isWindowOf_run hcreate horder).2
  case plain =>
    rintro before since rfl hsince
    exact isWindowOf_errors hcreate horder hsince

/-- A setpoint starts the integral of the den anew while there is no limit, a failed sample that is
old does nothing, and a limit holds for the samples after it. -/
theorem integrates_in_den :
    let calls : List (PidCall Float) :=
      [.sample (.healthy (.ofEpoch 0 0) 21), .sample (.healthy (.ofEpoch 60 0) 20.5), .setpoint 19,
       .sample (.failure (.ofEpoch 30 0) none (.sensor "gone")),
       .sample (.healthy (.ofEpoch 120 0) 20), .limit 2, .i 0.5,
       .sample (.healthy (.ofEpoch 121 0) 20), .sample (.healthy (.ofEpoch 122 0) 19.5)]
    ∃ c : Pid Float, create "den" 20 (.ofGains 1 1 0 0) = .ok c ∧
      Instant.AreIncreasing (valueTimes calls) ∧ c.IntegratesByLimit calls := by
  intro calls
  have hruns : Outcome.holds (create "den" (20 : Float) (.ofGains 1 1 0 0)) (fun _ => true) =
      true := by
    decide +kernel
  obtain ⟨c, hc, -⟩ := Outcome.exists_of_holds hruns
  have horder : Instant.AreIncreasing (valueTimes calls) := ⟨by decide +kernel, by decide +kernel⟩
  exact ⟨c, hc, horder, integrates_by_limit hc horder⟩

end Run

end Pid

end HomeClimate
