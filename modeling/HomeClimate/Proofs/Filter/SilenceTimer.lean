import HomeClimate.Filter.SilenceWatch
import HomeClimate.Proofs.Filter.SilenceChecks

/-!
# Silences that a timer reports

A watch waits for its timer and for its input, and takes what is due first.  The input is a
list of signals, each with the gap since the one before it, and the gap up to the end of the
input.  The first gap is counted from the start of the watch.

`SilenceWatch.Runs` says what the watch may do: its timer goes off, or it passes a signal on,
or the input ends.  If the timer and the input are due at the same time it may take either.
So what it gives is settled only if no gap is a multiple of the timeout, a gap of nothing
apart.

* In such a gap the timer goes off at every multiple of the timeout and at no other time
  (`runs_goOffs_iff`).
* A guard that repeats itself reports all of them (`output_goOffs_of_repeats`), and another
  guard the first (`output_goOffs_of_once`).
* Whatever the guard has noted in the gap, the signal that ends the gap makes it forget
  (`arrive_goOffs`), so each gap is as good as the first.

`SilenceWatch.output_by_gaps` says what comes out and when, of all that the watch may do and of
the watch that runs (`WatchRun`).
-/

namespace HomeClimate

variable {α : Type}

/-! ## What is expected -/

namespace SilenceGuard

/-- So many reports, one after each timeout since the start, with the times of the timer. -/
def reportsAfter (g : SilenceGuard) (clock : Span → Instant) (start : Span) (count : Nat) :
    List (Span × Signal α) :=
  (List.range count).map fun k =>
    let time := start + (k + 1) * g.timeout
    (time, g.report (clock time))

/-- How many reports a gap leads to. -/
def reportCount (g : SilenceGuard) (gap : Span) : Nat :=
  if g.repeats then gap / g.timeout else min 1 (gap / g.timeout)

/-- All that is to come out, with the times of the timer: every signal, and before it the reports of
the gap that it ends. -/
def outputByGaps (g : SilenceGuard) (clock : Span → Instant) (start : Span) :
    List (Span × Signal α) → Span → List (Span × Signal α)
  | [], last => g.reportsAfter clock start (g.reportCount last)
  | (gap, signal) :: arrivals, last =>
    g.reportsAfter clock start (g.reportCount gap) ++
      (start + gap, signal) :: g.outputByGaps clock (start + gap) arrivals last

/-- One timeout later it is one timeout less to any later one. -/
theorem add_succ_mul (start timeout k : Nat) :
    start + (k + 1) * timeout = start + timeout + k * timeout := by
  rw [Nat.succ_mul, Nat.add_comm (k * timeout), Nat.add_assoc]

theorem reportsAfter_succ (g : SilenceGuard) (clock : Span → Instant) (start : Span)
    (count : Nat) :
    (g.reportsAfter clock start (count + 1) : List (Span × Signal α)) =
      (start + g.timeout, g.report (clock (start + g.timeout))) ::
        g.reportsAfter clock (start + g.timeout) count := by
  rw [reportsAfter, List.range_succ_eq_map, List.map_cons, List.map_map, Nat.zero_add, Nat.one_mul]
  simp only [Function.comp_def, Nat.succ_eq_add_one, add_succ_mul start g.timeout]
  rfl

theorem outputByGaps_observe (g : SilenceGuard) (signal : Signal α) (clock : Span → Instant)
    (start : Span) (arrivals : List (Span × Signal α)) (last : Span) :
    (g.observe signal).outputByGaps clock start arrivals last =
      g.outputByGaps clock start arrivals last := by
  induction arrivals generalizing start with
  | nil => rfl
  | cons arrival arrivals ih =>
      rw [outputByGaps, outputByGaps, ih]
      rfl

/-- The guard when its timer has gone off. -/
def noting (g : SilenceGuard) (now : Instant) : SilenceGuard :=
  { g with lastSeen := some now, inTimeout := true }

theorem expire_eq (g : SilenceGuard) (now : Instant) :
    (g.expire now : SilenceGuard × Option (Signal α)) =
      (g.noting now, if g.inTimeout && !g.repeats then none else some (g.report now)) := by
  rw [expire, noting]
  dsimp only
  split
  next h =>
    rw [(Bool.and_eq_true_iff.mp h).1]
  next => rfl

end SilenceGuard

/-! ## What a watch may do -/

namespace SilenceWatch

/-- When the next input is due: the next signal, or else the end of the input. -/
def nextInput (heard : Span) (arrivals : List (Span × Signal α)) (last : Span) : Span :=
  match arrivals with
  | [] => heard + last
  | (gap, _) :: _ => heard + gap

/-- A watch that last heard of its input at some time, the input that is to come, and what comes out
of the watch until the input ends. -/
inductive Runs (clock : Span → Instant) :
    SilenceWatch → Span → List (Span × Signal α) → Span → List (Span × Signal α) → Prop
  | goesOff {w next : SilenceWatch} {report : Option (Signal α)} {heard last : Span}
      {arrivals out : List (Span × Signal α)}
      (hdue : w.deadline ≤ nextInput heard arrivals last)
      (hnext : w.goOff w.deadline (clock w.deadline) = (next, report))
      (hrest : Runs clock next heard arrivals last out) :
      Runs clock w heard arrivals last (report.toList.map (w.deadline, ·) ++ out)
  | hears {w : SilenceWatch} {heard gap last : Span} {signal : Signal α}
      {arrivals out : List (Span × Signal α)}
      (hdue : heard + gap ≤ w.deadline)
      (hrest : Runs clock (w.arrive (heard + gap) signal) (heard + gap) arrivals last out) :
      Runs clock w heard ((gap, signal) :: arrivals) last ((heard + gap, signal) :: out)
  | ends {w : SilenceWatch} {heard last : Span} (hdue : heard + last ≤ w.deadline) :
      Runs clock w heard [] last []

variable {clock : Span → Instant}

/-- The timer is due first. -/
theorem runs_iff_goesOff {w next : SilenceWatch} {report : Option (Signal α)} {heard last : Span}
    {arrivals out : List (Span × Signal α)} (h : w.deadline < nextInput heard arrivals last)
    (hnext : w.goOff w.deadline (clock w.deadline) = (next, report)) :
    Runs clock w heard arrivals last out ↔
      ∃ rest, out = report.toList.map (w.deadline, ·) ++ rest ∧
        Runs clock next heard arrivals last rest := by
  constructor
  · intro hruns
    cases hruns with
    | goesOff _ hnext' hrest =>
        cases hnext.symm.trans hnext'
        exact ⟨_, rfl, hrest⟩
    | hears hdue => exact absurd h (Nat.not_lt.mpr hdue)
    | ends hdue => exact absurd h (Nat.not_lt.mpr hdue)
  · rintro ⟨rest, rfl, hrest⟩
    exact .goesOff (Nat.le_of_lt h) hnext hrest

/-- A signal is due first. -/
theorem runs_iff_hears {w : SilenceWatch} {heard gap last : Span} {signal : Signal α}
    {arrivals out : List (Span × Signal α)} (h : heard + gap < w.deadline) :
    Runs clock w heard ((gap, signal) :: arrivals) last out ↔
      ∃ rest, out = (heard + gap, signal) :: rest ∧
        Runs clock (w.arrive (heard + gap) signal) (heard + gap) arrivals last rest := by
  constructor
  · intro hruns
    cases hruns with
    | goesOff hdue => exact absurd h (Nat.not_lt.mpr hdue)
    | hears _ hrest => exact ⟨_, rfl, hrest⟩
  · rintro ⟨rest, rfl, hrest⟩
    exact .hears (Nat.le_of_lt h) hrest

/-- The end of the input is due first. -/
theorem runs_iff_ends {w : SilenceWatch} {heard last : Span} {out : List (Span × Signal α)}
    (h : heard + last < w.deadline) : Runs clock w heard [] last out ↔ out = [] := by
  constructor
  · intro hruns
    cases hruns with
    | goesOff hdue => exact absurd h (Nat.not_lt.mpr hdue)
    | ends => rfl
  · rintro rfl
    exact .ends (Nat.le_of_lt h)

/-! ## The timer goes off some times -/

/-- The watch after its timer went off some times with no input between, and what came out. -/
def goOffs (w : SilenceWatch) (clock : Span → Instant) :
    (times : Nat) → SilenceWatch × List (Span × Signal α)
  | 0 => (w, [])
  | times + 1 =>
    let (next, report) := w.goOff w.deadline (clock w.deadline)
    let (later, out) := next.goOffs clock times
    (later, report.toList.map (w.deadline, ·) ++ out)

theorem goOffs_succ {w next : SilenceWatch} {report : Option (Signal α)}
    (hnext : w.goOff w.deadline (clock w.deadline) = (next, report)) (times : Nat) :
    w.goOffs clock (times + 1) =
      ((next.goOffs clock times : SilenceWatch × List (Span × Signal α)).1,
        report.toList.map (w.deadline, ·) ++ (next.goOffs clock times).2) := by
  rw [goOffs, hnext]

/-- What the timer leaves when it goes off. -/
theorem goOff_eq (w : SilenceWatch) (elapsed : Span) (now : Instant) :
    (w.goOff elapsed now : SilenceWatch × Option (Signal α)) =
      (start (w.guard.noting now) elapsed,
        if w.guard.inTimeout && !w.guard.repeats then none else some (w.guard.report now)) := by
  rw [goOff, SilenceGuard.expire_eq]

/-- After the timer went off some times it is set as many timeouts later. -/
theorem deadline_goOffs (w : SilenceWatch) (times : Nat) :
    (w.goOffs clock times : SilenceWatch × List (Span × Signal α)).1.deadline =
      w.deadline + times * w.guard.timeout := by
  induction times generalizing w with
  | zero =>
      rw [Nat.zero_mul]
      rfl
  | succ times ih =>
      rw [goOffs_succ (w.goOff_eq _ _), SilenceGuard.add_succ_mul]
      exact ih (start (w.guard.noting (clock w.deadline)) w.deadline)

/-- A signal makes the guard forget how often the timer has gone off. -/
theorem arrive_goOffs (w : SilenceWatch) (times : Nat) (elapsed : Span) (signal : Signal α) :
    (w.goOffs clock times : SilenceWatch × List (Span × Signal α)).1.arrive elapsed signal =
      w.arrive elapsed signal := by
  induction times generalizing w with
  | zero => rfl
  | succ times ih =>
      rw [goOffs_succ (w.goOff_eq _ _)]
      exact ih (start (w.guard.noting (clock w.deadline)) w.deadline)

theorem output_goOffs_of_repeats {w : SilenceWatch} (hrepeats : w.guard.repeats = true)
    {heard : Span} (hdeadline : w.deadline = heard + w.guard.timeout) (times : Nat) :
    (w.goOffs clock times).2 =
      (w.guard.reportsAfter clock heard times : List (Span × Signal α)) := by
  induction times generalizing w heard with
  | zero => rfl
  | succ times ih =>
      have hrest := ih (w := start (w.guard.noting (clock w.deadline)) w.deadline) hrepeats rfl
      rw [goOffs_succ (w.goOff_eq _ _), hrest, SilenceGuard.reportsAfter_succ, ← hdeadline,
        hrepeats, Bool.not_true, Bool.and_false]
      rfl

theorem output_goOffs_of_reported {w : SilenceWatch} (hrepeats : w.guard.repeats = false)
    (hreported : w.guard.inTimeout = true) (times : Nat) :
    (w.goOffs clock times).2 = ([] : List (Span × Signal α)) := by
  induction times generalizing w with
  | zero => rfl
  | succ times ih =>
      have hrest := ih (w := start (w.guard.noting (clock w.deadline)) w.deadline) hrepeats rfl
      rw [goOffs_succ (w.goOff_eq _ _), hrest, hrepeats, hreported]
      rfl

theorem output_goOffs_of_once {w : SilenceWatch} (hrepeats : w.guard.repeats = false)
    (hfresh : w.guard.inTimeout = false) {heard : Span}
    (hdeadline : w.deadline = heard + w.guard.timeout) (times : Nat) :
    (w.goOffs clock times).2 =
      (w.guard.reportsAfter clock heard (min 1 times) : List (Span × Signal α)) := by
  cases times with
  | zero => rfl
  | succ times =>
      have hrest : ((start (w.guard.noting (clock w.deadline)) w.deadline).goOffs clock times).2 =
          ([] : List (Span × Signal α)) :=
        output_goOffs_of_reported (w := start (w.guard.noting (clock w.deadline)) w.deadline)
          hrepeats rfl times
      rw [goOffs_succ (w.goOff_eq _ _), hrest, hfresh, Nat.min_eq_left (Nat.le_add_left 1 times),
        SilenceGuard.reportsAfter_succ, ← hdeadline]
      rfl

/-- While only its timer is due, there is one thing that a watch may do. -/
theorem runs_goOffs_iff {w : SilenceWatch} {heard last : Span}
    {arrivals out : List (Span × Signal α)} (times : Nat)
    (h : ∀ k < times, w.deadline + k * w.guard.timeout < nextInput heard arrivals last) :
    Runs clock w heard arrivals last out ↔
      ∃ rest, out = (w.goOffs clock times).2 ++ rest ∧
        Runs clock (w.goOffs clock times : SilenceWatch × List (Span × Signal α)).1
          heard arrivals last rest := by
  induction times generalizing w out with
  | zero =>
      constructor
      · exact fun hruns => ⟨out, rfl, hruns⟩
      · rintro ⟨rest, rfl, hrest⟩
        exact hrest
  | succ times ih =>
      have hfirst : w.deadline < nextInput heard arrivals last := by
        simpa using h 0 (Nat.succ_pos times)
      have hothers : ∀ k < times, w.deadline + w.guard.timeout + k * w.guard.timeout <
          nextInput heard arrivals last := by
        intro k hk
        rw [← SilenceGuard.add_succ_mul]
        exact h (k + 1) (Nat.succ_lt_succ hk)
      have hnext := w.goOff_eq (α := α) w.deadline (clock w.deadline)
      rw [runs_iff_goesOff hfirst hnext, goOffs_succ hnext]
      constructor
      · rintro ⟨_, rfl, hrest⟩
        obtain ⟨rest, rfl, hlater⟩ := (ih hothers).mp hrest
        exact ⟨rest, (List.append_assoc _ _ _).symm, hlater⟩
      · rintro ⟨rest, rfl, hrest⟩
        exact ⟨_, List.append_assoc _ _ _, (ih hothers).mpr ⟨rest, rfl, hrest⟩⟩

/-- The watch that runs lets its timer go off as often as it is due. -/
theorem wait_eq_goOffs {w : SilenceWatch} {until_ : Span} {count times : Nat}
    (hbefore : ∀ k < count, w.deadline + k * w.guard.timeout ≤ until_)
    (hafter : until_ < w.deadline + count * w.guard.timeout) (htimes : count < times) :
    (w.wait clock until_ times : SilenceWatch × List (Signal α)) =
      ((w.goOffs clock count : SilenceWatch × List (Span × Signal α)).1,
        (w.goOffs clock count).2.map Prod.snd) := by
  induction count generalizing w times with
  | zero =>
      obtain ⟨times, rfl⟩ := Nat.exists_eq_add_one.mpr htimes
      rw [wait, if_neg (by simpa using hafter)]
      rfl
  | succ count ih =>
      obtain ⟨times, rfl⟩ := Nat.exists_eq_add_one.mpr (Nat.zero_lt_of_lt htimes)
      have hdue : w.deadline ≤ until_ := by simpa using hbefore 0 (Nat.succ_pos count)
      have hothers : ∀ k < count,
          w.deadline + w.guard.timeout + k * w.guard.timeout ≤ until_ := by
        intro k hk
        rw [← SilenceGuard.add_succ_mul]
        exact hbefore (k + 1) (Nat.succ_lt_succ hk)
      rw [SilenceGuard.add_succ_mul] at hafter
      have hnext := w.goOff_eq (α := α) w.deadline (clock w.deadline)
      have hrest := ih (w := start (w.guard.noting (clock w.deadline)) w.deadline) hothers hafter
        (Nat.lt_of_succ_lt_succ htimes)
      rw [wait, if_pos hdue, goOffs_succ hnext, hnext]
      dsimp only
      rw [hrest, List.map_append, List.map_map, Function.comp_def, List.map_id']

/-! ## One gap -/

/-- A timer that is set to a timeout goes off before the end of a gap as often as the timeout fits
into it. -/
theorem due_in_gap {timeout gap : Nat} (start : Nat) {k : Nat} (hk : k < gap / timeout) :
    start + timeout + k * timeout ≤ start + gap := by
  rw [← SilenceGuard.add_succ_mul]
  exact Nat.add_le_add_left (Nat.mul_le_of_le_div timeout (k + 1) gap hk) start

theorem due_before {timeout gap : Nat} (hgap : timeout ∣ gap → gap = 0) (start : Nat) {k : Nat}
    (hk : k < gap / timeout) : start + timeout + k * timeout < start + gap := by
  refine Nat.lt_of_le_of_ne (due_in_gap start hk) fun heq => ?_
  rw [← SilenceGuard.add_succ_mul] at heq
  have hzero := hgap ⟨k + 1, by rw [← Nat.add_left_cancel heq, Nat.mul_comm]⟩
  rw [hzero, Nat.zero_div] at hk
  exact Nat.not_lt_zero k hk

theorem due_after {timeout : Nat} (hpatient : 0 < timeout) (start gap : Nat) :
    start + gap < start + timeout + gap / timeout * timeout := by
  rw [← SilenceGuard.add_succ_mul, Nat.mul_comm]
  exact Nat.add_lt_add_left (Nat.lt_mul_div_succ gap hpatient) start

/-- What comes out in a gap of a watch whose guard has nothing to forget. -/
theorem output_goOffs {g : SilenceGuard} (hfresh : g.inTimeout = false) (heard gap : Span) :
    ((start g heard).goOffs clock (gap / g.timeout)).2 =
      (g.reportsAfter clock heard (g.reportCount gap) : List (Span × Signal α)) := by
  rw [SilenceGuard.reportCount]
  cases hrepeats : g.repeats with
  | true => exact output_goOffs_of_repeats (w := start g heard) hrepeats rfl _
  | false => exact output_goOffs_of_once (w := start g heard) hrepeats hfresh rfl _

/-! ## All gaps -/

/-- If no gap leaves a choice, there is one thing that a watch may do. -/
theorem runs_iff_output {g : SilenceGuard} (hpatient : 0 < g.timeout)
    (hfresh : g.inTimeout = false) {heard last : Span} {arrivals out : List (Span × Signal α)}
    (hgaps : ∀ gap ∈ arrivals.map Prod.fst ++ [last], g.timeout ∣ gap → gap = 0) :
    Runs clock (start g heard) heard arrivals last out ↔
      out = g.outputByGaps clock heard arrivals last := by
  induction arrivals generalizing g heard out with
  | nil =>
      have hlast : g.timeout ∣ last → last = 0 := hgaps last List.mem_cons_self
      have hdue : ((start g heard).goOffs clock (last / g.timeout) :
          SilenceWatch × List (Span × Signal α)).1.deadline =
            heard + g.timeout + last / g.timeout * g.timeout := deadline_goOffs _ _
      rw [runs_goOffs_iff (last / g.timeout) fun k hk => due_before hlast heard hk,
        output_goOffs hfresh]
      simp only [runs_iff_ends (hdue ▸ due_after hpatient heard last), exists_eq_right,
        List.append_nil]
      rfl
  | cons arrival arrivals ih =>
      obtain ⟨gap, signal⟩ := arrival
      obtain ⟨hgap, hrest⟩ := List.forall_mem_cons.mp hgaps
      have hdue : ((start g heard).goOffs clock (gap / g.timeout) :
          SilenceWatch × List (Span × Signal α)).1.deadline =
            heard + g.timeout + gap / g.timeout * g.timeout := deadline_goOffs _ _
      rw [runs_goOffs_iff (gap / g.timeout) fun k hk => due_before hgap heard hk,
        output_goOffs hfresh]
      have hlater (rest : List (Span × Signal α)) :
          Runs clock ((start g heard).arrive (heard + gap) signal) (heard + gap) arrivals last rest ↔
            rest = g.outputByGaps clock (heard + gap) arrivals last := by
        rw [← g.outputByGaps_observe signal]
        exact ih (g := g.observe signal) hpatient rfl hrest
      simp only [runs_iff_hears (hdue ▸ due_after hpatient heard gap), arrive_goOffs, hlater,
        exists_eq_right]
      rfl

end SilenceWatch

/-! ## The watch that runs -/

namespace WatchRun

variable {clock : Span → Instant}

/-- A watch that is listened to and that has just heard of its input. -/
def listening (g : SilenceGuard) (elapsed : Span) : WatchRun :=
  ⟨.start g elapsed, elapsed, true, true⟩

/-- What a watch gives while its input comes. -/
def outputOf (r : WatchRun) (clock : Span → Instant) :
    List (Span × Signal α) → Span → List (Signal α)
  | [], last => (r.wait clock last).2
  | (gap, signal) :: arrivals, last =>
    let (waited, reports) := r.wait clock gap
    let (heard, given) := waited.arrive signal
    reports ++ given ++ heard.outputOf clock arrivals last

/-- A watch that is listened to gives what it reports while it waits. -/
theorem wait_eq {r : WatchRun} (hrunning : r.isRunning = true) (hheard : r.isHeard = true)
    {gap : Span} {watch : SilenceWatch} {reports : List (Signal α)}
    (h : r.watch.wait clock (r.elapsed + gap)
      (r.watch.timesBetween r.elapsed (r.elapsed + gap)) = (watch, reports)) :
    r.wait clock gap = ({ r with watch, elapsed := r.elapsed + gap }, reports) := by
  unfold wait
  dsimp only
  rw [if_pos hrunning, h]
  exact if_pos hheard

theorem wait_listening {g : SilenceGuard} (hpatient : 0 < g.timeout)
    (hfresh : g.inTimeout = false) (elapsed gap : Span) :
    ((listening g elapsed).wait clock gap : WatchRun × List (Signal α)) =
      (⟨((SilenceWatch.start g elapsed).goOffs clock (gap / g.timeout) :
          SilenceWatch × List (Span × Signal α)).1, elapsed + gap, true, true⟩,
        (g.reportsAfter clock elapsed (g.reportCount gap)).map Prod.snd) := by
  have htimes : gap / g.timeout < (elapsed + gap - elapsed) / g.timeout + 1 := by
    rw [Nat.add_sub_cancel_left]
    exact Nat.lt_succ_self _
  have hwait : ((SilenceWatch.start g elapsed).wait clock (elapsed + gap)
      ((elapsed + gap - elapsed) / g.timeout + 1) : SilenceWatch × List (Signal α)) = _ :=
    SilenceWatch.wait_eq_goOffs (fun k hk => SilenceWatch.due_in_gap elapsed hk)
      (SilenceWatch.due_after hpatient elapsed gap) htimes
  rw [SilenceWatch.output_goOffs hfresh] at hwait
  exact wait_eq (r := listening g elapsed) rfl rfl hwait

/-- The watch that runs gives what is expected, without the times. -/
theorem outputOf_listening {g : SilenceGuard} (hpatient : 0 < g.timeout)
    (hfresh : g.inTimeout = false) (elapsed : Span) (arrivals : List (Span × Signal α))
    (last : Span) :
    (listening g elapsed).outputOf clock arrivals last =
      (g.outputByGaps clock elapsed arrivals last).map Prod.snd := by
  induction arrivals generalizing g elapsed with
  | nil =>
      rw [outputOf, wait_listening hpatient hfresh]
      rfl
  | cons arrival arrivals ih =>
      obtain ⟨gap, signal⟩ := arrival
      have hrest := ih (g := g.observe signal) hpatient rfl (elapsed + gap)
      rw [g.outputByGaps_observe signal] at hrest
      rw [outputOf, wait_listening hpatient hfresh, SilenceGuard.outputByGaps, List.map_append,
        List.map_cons, ← hrest]
      dsimp only [arrive]
      rw [if_pos rfl, give, if_pos rfl, SilenceWatch.arrive_goOffs, List.append_assoc]
      rfl

end WatchRun

namespace SilenceWatch

variable {ν : Type}

/-- If no gap is a multiple of the timeout, one of nothing apart, then all that a watch may do comes
to the same: it passes every signal on, and in each gap it reports every timeout, or the first.  The
watch that runs gives just that, and it starts like that if its timer can be set so far ahead. -/
theorem output_by_gaps {marker : String} {timeout : Span} {repeats : Bool} {g : SilenceGuard}
    (hcreate : SilenceGuard.create marker timeout repeats = .ok g) (clock : Span → Instant)
    {arrivals : List (Span × Signal α)} {last : Span}
    (hgaps : ∀ gap ∈ arrivals.map Prod.fst ++ [last], g.timeout ∣ gap → gap = 0) :
    (∀ out, Runs clock (start g 0) 0 arrivals last out ↔
        out = g.outputByGaps clock 0 arrivals last) ∧
      (WatchRun.listening g 0).outputOf clock arrivals last =
        (g.outputByGaps clock 0 arrivals last).map Prod.snd ∧
      (g.timeout < Span.seconds (twoTo 63) →
        (WatchRun.start g : Except (Fault ν) WatchRun) = .ok (.listening g 0)) := by
  obtain ⟨hfresh, -, hpatient⟩ := SilenceGuard.isNew_create hcreate
  refine ⟨fun out => runs_iff_output hpatient hfresh hgaps, ?_, fun hshort => ?_⟩
  · exact WatchRun.outputOf_listening hpatient hfresh 0 arrivals last
  · exact if_neg (Nat.not_le.mpr hshort)

/-- A probe that is late with its first signal sends two at once and then no more. -/
theorem output_by_gaps_of_probe :
    let clock : Span → Instant := fun elapsed => .ofNanos elapsed
    let first : Signal Rat := .healthy (.ofEpoch 3 0) 20
    let second : Signal Rat := .failure (.ofEpoch 1 0) none (.sensor "gone")
    let arrivals := [(Span.millis 120, first), (0, second)]
    let last := Span.millis 75
    ∃ g, SilenceGuard.create "probe" (Span.millis 50) true = .ok g ∧
      (∀ gap ∈ arrivals.map Prod.fst ++ [last], g.timeout ∣ gap → gap = 0) ∧
      (∀ out, Runs clock (start g 0) 0 arrivals last out ↔
        out = [(Span.millis 50, g.report (clock (Span.millis 50))),
          (Span.millis 100, g.report (clock (Span.millis 100))), (Span.millis 120, first),
          (Span.millis 120, second), (Span.millis 170, g.report (clock (Span.millis 170)))]) ∧
      (WatchRun.start g : Except (Fault Rat) WatchRun) = .ok (.listening g 0) := by
  intro clock first second arrivals last
  have hcreate : SilenceGuard.create "probe" (Span.millis 50) true =
      .ok ⟨"probe", Span.millis 50, true, false, none⟩ := rfl
  have hgaps : ∀ gap ∈ arrivals.map Prod.fst ++ [last], Span.millis 50 ∣ gap → gap = 0 := by
    decide
  obtain ⟨hruns, -, hstart⟩ := output_by_gaps (ν := Rat) hcreate clock hgaps
  refine ⟨_, hcreate, hgaps, fun out => (hruns out).trans (Eq.congr_right ?_), hstart (by decide)⟩
  decide

end SilenceWatch

end HomeClimate
