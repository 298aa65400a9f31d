import HomeClimate.Filter.SilenceGuard
import HomeClimate.Proofs.Runs
import HomeClimate.Proofs.Time.Order
import Mathlib.Data.List.Induction
import Mathlib.Data.List.Pairwise

/-!
# Silences and their reports

A silence starts with a signal, or with the first check if there has been no signal, and it
lasts through the checks that follow (`IsSilence`).  Every check is in a silence.

A guard does not remember when the silence started.  The time that it remembers is set by a
signal, by the first check, and by every check that comes too late, whether there is a
report or not.  How it answers to this depends on whether it repeats itself.

* If it does not, then at the first late check it still remembers the start of the silence.
  It reports it there and then, whatever it remembers, nothing until the next signal
  (`reports_checks`).
* If it does, then every late check is reported, so what it remembers is the later of the
  start of the silence and the last report (`lastSeen_run`).

`SilenceGuard.reports_silences` puts the two together, for calls whose times do not go back.
-/

namespace HomeClimate

variable {α : Type}

/-! ## Calls -/

/-- What can be done to a guard. -/
inductive GuardCall (α : Type) where
  /-- It is shown a signal. -/
  | observe (signal : Signal α)
  /-- A signal is passed through it. -/
  | process (signal : Signal α)
  /-- It is asked at some time. -/
  | check (now : Instant)

namespace GuardCall

/-- The time of the signal, or the time at which the guard is asked. -/
def time : GuardCall α → Instant
  | .observe signal => signal.time
  | .process signal => signal.time
  | .check now => now

/-- Whether the guard is asked. -/
def IsCheck : GuardCall α → Prop
  | .check _ => True
  | _ => False

end GuardCall

/-- The calls before a silence, its start, and the times of its checks. -/
inductive IsSilence : List (GuardCall α) → Instant → List Instant → Prop
  | heard (earlier : List (GuardCall α)) (call : GuardCall α) (checks : List Instant)
      (hsignal : ¬ call.IsCheck) : IsSilence (earlier ++ [call]) call.time checks
  | unheard (first : Instant) (checks : List Instant) : IsSilence [] first (first :: checks)

/-- The later of an instant and another, if there is another. -/
def Instant.later (t : Instant) : Option Instant → Instant
  | none => t
  | some t' => if t ≤ t' then t' else t

theorem Instant.later_of_le {t : Instant} {last : Option Instant}
    (h : ∀ t', last = some t' → t' ≤ t) : t.later last = t := by
  cases last with
  | none => rfl
  | some t' =>
      rw [later]
      split
      next hle => exact le_antisymm (h t' rfl) hle
      next => rfl

/-- A silence goes on with every check. -/
theorem IsSilence.concat {early : List (GuardCall α)} {start : Instant} {checks : List Instant}
    (h : IsSilence early start checks) (now : Instant) :
    IsSilence early start (checks ++ [now]) := by
  cases h with
  | heard earlier call _ hsignal => exact .heard earlier call _ hsignal
  | unheard first checks => exact .unheard start (checks ++ [now])

/-- Every check is in a silence. -/
theorem exists_isSilence (before : List (GuardCall α)) (now : Instant) :
    ∃ early start checks, before = early ++ checks.map .check ∧
      IsSilence early start (checks ++ [now]) := by
  induction before using List.reverseRecOn generalizing now with
  | nil => exact ⟨[], now, [], rfl, .unheard now []⟩
  | append_singleton before call ih =>
      cases call with
      | observe signal => exact ⟨_, _, [], (List.append_nil _).symm, .heard before _ [now] id⟩
      | process signal => exact ⟨_, _, [], (List.append_nil _).symm, .heard before _ [now] id⟩
      | check now' =>
          obtain ⟨early, start, checks, rfl, hsilence⟩ := ih now'
          exact ⟨early, start, checks ++ [now'], by simp, hsilence.concat now⟩

namespace SilenceGuard

/-! ## Runs -/

/-- The guard after a call. -/
def after (g : SilenceGuard) : GuardCall α → SilenceGuard
  | .observe signal => g.observe signal
  | .process signal => (g.process signal).1
  | .check now => (g.check now : SilenceGuard × Option (Signal α)).1

/-- The report of silence that a call leads to, if it does. -/
def report? (g : SilenceGuard) : GuardCall α → Option (Signal α)
  | .check now => (g.check now).2
  | _ => none

/-- The guard after some calls. -/
def run (g : SilenceGuard) (calls : List (GuardCall α)) : SilenceGuard := calls.foldl after g

/-- The reports of a run. -/
def reports (g : SilenceGuard) (calls : List (GuardCall α)) : List (Signal α) :=
  gathered after report? g calls

/-- The time of the last report of a run. -/
def lastReport? (g : SilenceGuard) (calls : List (GuardCall α)) : Option Instant :=
  (g.reports calls).getLast?.map Signal.time

@[simp] theorem run_concat (g : SilenceGuard) (calls : List (GuardCall α)) (call : GuardCall α) :
    g.run (calls ++ [call]) = (g.run calls).after call := by
  simp [run]

theorem reports_cons (g : SilenceGuard) (call : GuardCall α) (calls : List (GuardCall α)) :
    g.reports (call :: calls) = (g.report? call).toList ++ (g.after call).reports calls :=
  gathered_append after report? g [call] calls

theorem reports_concat (g : SilenceGuard) (calls : List (GuardCall α)) (call : GuardCall α) :
    g.reports (calls ++ [call]) = g.reports calls ++ ((g.run calls).report? call).toList :=
  gathered_concat after report? g calls call

/-! ## One check -/

/-- A guard that is asked finds that all is well, or that a silence which it has reported goes on,
or it reports the silence. -/
theorem check_cases (g : SilenceGuard) (now : Instant) :
    (now.spanSince (g.lastSeen.getD now) < g.timeout ∧
        (g.check now : SilenceGuard × Option (Signal α)) =
          ({ g with lastSeen := some (g.lastSeen.getD now) }, none)) ∨
      (g.timeout ≤ now.spanSince (g.lastSeen.getD now) ∧
        (g.inTimeout = true ∧ g.repeats = false) ∧
        (g.check now : SilenceGuard × Option (Signal α)) =
          ({ g with lastSeen := some now }, none)) ∨
      (g.timeout ≤ now.spanSince (g.lastSeen.getD now) ∧
        ¬ (g.inTimeout = true ∧ g.repeats = false) ∧
        (g.check now : SilenceGuard × Option (Signal α)) =
          ({ g with lastSeen := some now, inTimeout := true }, some (g.report now))) := by
  rw [check]
  by_cases hspan : now.spanSince (g.lastSeen.getD now) < g.timeout
  · exact Or.inl ⟨hspan, if_pos hspan⟩
  · refine Or.inr ?_
    rw [if_neg hspan, expire]
    by_cases hgoes : (g.inTimeout && !g.repeats) = true
    · exact Or.inl ⟨Nat.not_lt.mp hspan, by simpa using hgoes, if_pos hgoes⟩
    · exact Or.inr ⟨Nat.not_lt.mp hspan, by simpa using hgoes, if_neg hgoes⟩

/-- What a guard is set to stays so. -/
theorem after_rest (g : SilenceGuard) (call : GuardCall α) :
    (g.after call).marker = g.marker ∧ (g.after call).timeout = g.timeout ∧
      (g.after call).repeats = g.repeats := by
  cases call with
  | observe signal => exact ⟨rfl, rfl, rfl⟩
  | process signal => exact ⟨rfl, rfl, rfl⟩
  | check now =>
      rw [after]
      rcases g.check_cases (α := α) now with ⟨-, heq⟩ | ⟨-, -, heq⟩ | ⟨-, -, heq⟩
      all_goals
        rw [heq]
        exact ⟨rfl, rfl, rfl⟩

theorem run_rest (g : SilenceGuard) (calls : List (GuardCall α)) :
    (g.run calls).marker = g.marker ∧ (g.run calls).timeout = g.timeout ∧
      (g.run calls).repeats = g.repeats := by
  induction calls using List.reverseRecOn with
  | nil => exact ⟨rfl, rfl, rfl⟩
  | append_singleton calls call ih =>
      obtain ⟨hmarker, htimeout, hrepeats⟩ := (g.run calls).after_rest call
      rw [run_concat]
      exact ⟨hmarker.trans ih.1, htimeout.trans ih.2.1, hrepeats.trans ih.2.2⟩

/-- A signal is remembered, ends the timeout and is not reported. -/
theorem after_signal (g : SilenceGuard) {call : GuardCall α} (h : ¬ call.IsCheck) :
    g.after call = { g with lastSeen := some call.time, inTimeout := false } ∧
      g.report? call = none := by
  cases call with
  | observe signal => exact ⟨rfl, rfl⟩
  | process signal => exact ⟨rfl, rfl⟩
  | check now => exact absurd trivial h

/-- Only a check is reported, and the report is a failure that has its time. -/
theorem eq_of_report? {g : SilenceGuard} {call : GuardCall α} {out : Signal α}
    (h : g.report? call = some out) : ∃ now, call = .check now ∧ out = g.report now := by
  cases call with
  | observe signal => cases h
  | process signal => cases h
  | check now =>
      rw [report?] at h
      rcases g.check_cases (α := α) now with ⟨-, heq⟩ | ⟨-, -, heq⟩ | ⟨-, -, heq⟩
      · rw [heq] at h
        cases h
      · rw [heq] at h
        cases h
      · rw [heq] at h
        cases h
        exact ⟨now, rfl, rfl⟩

/-- A guard is in a timeout after a call that was reported, and stays in it when it is asked. -/
theorem inTimeout_after (g : SilenceGuard) (call : GuardCall α) :
    (g.after call).inTimeout = true ↔
      (g.report? call).isSome = true ∨ (g.inTimeout = true ∧ call.IsCheck) := by
  cases call with
  | observe signal => simp [after, observe, report?, GuardCall.IsCheck]
  | process signal => simp [after, process, observe, report?, GuardCall.IsCheck]
  | check now =>
      rw [after, report?]
      rcases g.check_cases (α := α) now with ⟨-, heq⟩ | ⟨-, -, heq⟩ | ⟨-, -, heq⟩
      all_goals
        rw [heq]
        simp [GuardCall.IsCheck]

/-- A guard that has seen nothing, and that is patient for some time. -/
structure IsNew (g : SilenceGuard) : Prop where
  inTimeout : g.inTimeout = false
  lastSeen : g.lastSeen = none
  isPatient : 0 < g.timeout

theorem isNew_create {marker : String} {timeout : Span} {repeats : Bool} {g : SilenceGuard}
    (h : create marker timeout repeats = .ok g) : g.IsNew := by
  rw [create] at h
  split at h
  · cases h
  next hpatient =>
    cases h
    exact ⟨rfl, rfl, Nat.lt_of_lt_of_le (by decide) (Nat.not_lt.mp hpatient)⟩

/-- The first check of a guard that has seen nothing only starts the silence. -/
theorem IsNew.check_first {g : SilenceGuard} (hnew : g.IsNew) (first : Instant) :
    (g.check first : SilenceGuard × Option (Signal α)) =
      ({ g with lastSeen := some first }, none) := by
  have hspan : first.spanSince (g.lastSeen.getD first) < g.timeout := by
    rw [hnew.lastSeen, Option.getD_none, Instant.spanSince_self]
    exact hnew.isPatient
  rw [check, if_pos hspan, hnew.lastSeen]
  rfl

/-! ## A guard that does not repeat itself -/

/-- In a timeout that has been reported nothing is reported. -/
theorem reports_inTimeout {g : SilenceGuard} (hrepeats : g.repeats = false)
    (h : g.inTimeout = true) (checks : List Instant) :
    g.reports (checks.map .check : List (GuardCall α)) = [] := by
  induction checks generalizing g with
  | nil => rfl
  | cons now checks ih =>
      rw [List.map_cons, reports_cons, report?, after]
      rcases g.check_cases (α := α) now with ⟨-, heq⟩ | ⟨-, -, heq⟩ | ⟨-, hopen, -⟩
      · rw [heq]
        exact ih hrepeats h
      · rw [heq]
        exact ih hrepeats h
      · exact absurd ⟨h, hrepeats⟩ hopen

/-- The checks of a silence lead to one report at most, by the first of them that is late. -/
theorem reports_checks {g : SilenceGuard} (hrepeats : g.repeats = false)
    (h : g.inTimeout = false) {start : Instant} (hseen : g.lastSeen = some start)
    (checks : List Instant) :
    g.reports (checks.map .check : List (GuardCall α)) =
      ((checks.find? fun now => decide (g.timeout ≤ now.spanSince start)).map g.report).toList := by
  induction checks generalizing g with
  | nil => rfl
  | cons now checks ih =>
      rw [List.map_cons, reports_cons, report?, after, List.find?_cons]
      rcases g.check_cases (α := α) now with ⟨hspan, heq⟩ | ⟨-, ⟨hin, -⟩, -⟩ | ⟨hlate, -, heq⟩
      · rw [hseen, Option.getD_some] at hspan heq
        have hsame : { g with lastSeen := some start } = g := by rw [← hseen]
        rw [decide_eq_false (Nat.not_le.mpr hspan), heq]
        show [] ++ reports { g with lastSeen := some start } _ = _
        rw [hsame]
        exact ih hrepeats h hseen
      · cases h.symm.trans hin
      · rw [hseen, Option.getD_some] at hlate
        have hin : (g.check now : SilenceGuard × Option (Signal α)).1.inTimeout = true := by
          rw [heq]
        have hrepeats' : (g.check now : SilenceGuard × Option (Signal α)).1.repeats = false := by
          rw [heq]
          exact hrepeats
        rw [decide_eq_true hlate, reports_inTimeout hrepeats' hin, heq]
        rfl

/-- The checks of a silence, from its beginning. -/
theorem IsNew.reports_silence {g : SilenceGuard} (hnew : g.IsNew) (hrepeats : g.repeats = false)
    {early : List (GuardCall α)} {start : Instant} {checks : List Instant}
    (h : IsSilence early start checks) :
    (g.run early).reports (checks.map .check : List (GuardCall α)) =
      ((checks.find? fun now => decide (g.timeout ≤ now.spanSince start)).map g.report).toList := by
  cases h with
  | heard earlier call checks hsignal =>
      obtain ⟨hmarker, htimeout, hrepeats'⟩ := g.run_rest (earlier ++ [call])
      have hreport : ((g.run (earlier ++ [call])).report : Instant → Signal α) = g.report := by
        funext now
        rw [report, report, hmarker, htimeout]
      have hafter := ((g.run earlier).after_signal hsignal).1
      rw [← run_concat] at hafter
      have hout : (g.run (earlier ++ [call])).inTimeout = false := by rw [hafter]
      have hseen : (g.run (earlier ++ [call])).lastSeen = some call.time := by rw [hafter]
      rw [reports_checks (hrepeats'.trans hrepeats) hout hseen, htimeout, hreport]
  | unheard first rest =>
      have hfirst : ¬ g.timeout ≤ start.spanSince start := by
        rw [Instant.spanSince_self]
        exact Nat.not_le.mpr hnew.isPatient
      have hcheck : (g.check start : SilenceGuard × Option (Signal α)) = _ := hnew.check_first start
      rw [run, List.foldl_nil, List.map_cons, reports_cons, report?, after, hcheck,
        List.find?_cons_of_neg (by simpa using hfirst)]
      exact reports_checks (g := { g with lastSeen := some start }) hrepeats hnew.inTimeout rfl rest

/-! ## A guard that repeats itself -/

/-- Reports have the times of calls. -/
theorem time_mem_of_mem_reports {g : SilenceGuard} {calls : List (GuardCall α)} {out : Signal α}
    (h : out ∈ g.reports calls) : out.time ∈ calls.map GuardCall.time := by
  induction calls using List.reverseRecOn with
  | nil => cases h
  | append_singleton calls call ih =>
      rw [reports_concat] at h
      rw [List.map_append]
      rcases List.mem_append.mp h with h | h
      · exact List.mem_append_left _ (ih h)
      · obtain ⟨now, rfl, rfl⟩ := eq_of_report? (Option.mem_toList.mp h)
        exact List.mem_append_right _ List.mem_cons_self

/-- Up to a signal there is no report that is later. -/
theorem later_lastReport? {g : SilenceGuard} {earlier : List (GuardCall α)} {call : GuardCall α}
    (horder : ((earlier ++ [call]).map GuardCall.time).Pairwise (· ≤ ·))
    (hnone : (g.run earlier).report? call = none) :
    call.time.later (g.lastReport? (earlier ++ [call])) = call.time := by
  refine Instant.later_of_le ?_
  intro t ht
  rw [lastReport?, reports_concat, hnone, Option.toList_none, List.append_nil] at ht
  obtain ⟨out, hout, rfl⟩ := Option.map_eq_some_iff.mp ht
  have hmem := time_mem_of_mem_reports (List.mem_of_getLast? hout)
  rw [List.map_append] at horder
  exact (List.pairwise_append.mp horder).2.2 out.time hmem call.time List.mem_cons_self

/-- While it is asked, a guard that repeats itself remembers the later of the start and the last
report. -/
theorem lastSeen_run {g : SilenceGuard} (hrepeats : g.repeats = true)
    {early : List (GuardCall α)} {start : Instant}
    (hbase : (g.run early).lastSeen = some (start.later (g.lastReport? early)))
    (checks : List Instant) (horder : ∀ now ∈ checks, start ≤ now) :
    (g.run (early ++ checks.map .check)).lastSeen =
      some (start.later (g.lastReport? (early ++ checks.map .check))) := by
  induction checks using List.reverseRecOn with
  | nil => simpa using hbase
  | append_singleton checks now ih =>
      have hbefore := ih fun t ht => horder t (List.mem_append_left _ ht)
      have hnow := horder now (by simp)
      rw [List.map_append, ← List.append_assoc, List.map_cons, List.map_nil, run_concat,
        lastReport?, reports_concat, after, report?]
      rcases (g.run (early ++ checks.map .check)).check_cases (α := α) now with ⟨-, heq⟩ |
        ⟨-, ⟨-, hsilent⟩, -⟩ | ⟨-, -, heq⟩
      · rw [heq, hbefore, Option.toList_none, List.append_nil]
        rfl
      · rw [(g.run_rest _).2.2, hrepeats] at hsilent
        cases hsilent
      · rw [heq, Option.toList_some, List.getLast?_concat, Option.map_some, Instant.later]
        exact congrArg some (if_pos hnow).symm

/-- At every check of a silence a guard that repeats itself remembers the later of the start and the
last report. -/
theorem IsNew.getD_lastSeen {g : SilenceGuard} (hnew : g.IsNew) (hrepeats : g.repeats = true)
    {early : List (GuardCall α)} {start now : Instant} {checks : List Instant}
    (h : IsSilence early start (checks ++ [now]))
    (horder : ((early ++ checks.map GuardCall.check).map GuardCall.time).Pairwise (· ≤ ·)) :
    (g.run (early ++ checks.map .check)).lastSeen.getD now =
      start.later (g.lastReport? (early ++ checks.map .check)) := by
  rw [List.map_append] at horder
  generalize hall : checks ++ [now] = all at h
  cases h with
  | heard earlier call _ hsignal =>
      obtain ⟨hearly, -, hchecks⟩ := List.pairwise_append.mp horder
      obtain ⟨hafter, hnone⟩ := (g.run earlier).after_signal hsignal
      have hbase : (g.run (earlier ++ [call])).lastSeen =
          some (call.time.later (g.lastReport? (earlier ++ [call]))) := by
        rw [later_lastReport? hearly hnone, run_concat, hafter]
      rw [lastSeen_run hrepeats hbase checks]
      · rfl
      · intro t ht
        refine hchecks call.time ?_ t ?_
        · exact List.mem_map_of_mem (List.mem_append_right earlier List.mem_cons_self)
        · rw [List.map_map]
          exact List.mem_map.mpr ⟨t, ht, rfl⟩
  | unheard first rest =>
      cases checks with
      | nil =>
          cases hall
          show g.lastSeen.getD start = start
          rw [hnew.lastSeen]
          rfl
      | cons first' checks =>
          cases hall
          have hcheck : (g.check start : SilenceGuard × Option (Signal α)) = _ :=
            hnew.check_first start
          have hnone : g.lastReport? [(.check start : GuardCall α)] = none := by
            rw [lastReport?, reports_cons, report?, hcheck]
            rfl
          have hbase : (g.run [(.check start : GuardCall α)]).lastSeen =
              some (start.later (g.lastReport? [(.check start : GuardCall α)])) := by
            rw [hnone]
            exact congrArg (fun r : SilenceGuard × Option (Signal α) => r.1.lastSeen) hcheck
          have hseen := lastSeen_run hrepeats hbase checks ?_
          · show (g.run ([.check start] ++ checks.map .check)).lastSeen.getD now = _
            rw [hseen]
            rfl
          · intro t ht
            obtain ⟨hle, -⟩ := List.pairwise_cons.mp horder
            refine hle t ?_
            rw [List.map_map]
            exact List.mem_map.mpr ⟨t, ht, rfl⟩

/-- How silences are reported in a run. -/
structure ReportsSilences (g : SilenceGuard) (calls : List (GuardCall α)) : Prop where
  /-- Every check is in a silence. -/
  covered : ∀ before now rest, calls = before ++ .check now :: rest → ∃ early start checks,
    before = early ++ checks.map .check ∧ IsSilence early start (checks ++ [now])
  /-- A guard that does not repeat itself reports each silence at most once: at the first check at
  which the timeout is over since the start. -/
  once : g.repeats = false → ∀ early start checks rest,
    calls = early ++ checks.map .check ++ rest → IsSilence early start checks →
      (g.run early).reports (checks.map .check : List (GuardCall α)) =
        ((checks.find? fun now => decide (g.timeout ≤ now.spanSince start)).map g.report).toList
  /-- A guard that repeats itself reports every check at which the timeout is over since the start
  and since the last report. -/
  again : g.repeats = true → ∀ early start checks now rest,
    calls = early ++ checks.map .check ++ .check now :: rest →
      IsSilence early start (checks ++ [now]) →
        (((g.run (early ++ checks.map .check)).report? (.check now : GuardCall α)).isSome = true ↔
          g.timeout ≤ now.spanSince (start.later (g.lastReport? (early ++ checks.map .check))))
  /-- Only checks are reported, and a report is a failure that has the time of the check. -/
  failure : ∀ before call rest out, calls = before ++ call :: rest →
    (g.run before).report? call = some out → ∃ now, call = .check now ∧
      out = .failure now none (.timeout g.marker g.timeout)
  /-- The guard is in a timeout from a report until the next signal. -/
  inTimeout : (g.run calls).inTimeout = true ↔
    HeldSince (fun before call => ((g.run before).report? call).isSome = true) GuardCall.IsCheck
      calls

theorem IsNew.inTimeout_run {g : SilenceGuard} (hnew : g.IsNew) (calls : List (GuardCall α)) :
    (g.run calls).inTimeout = true ↔
      HeldSince (fun before call => ((g.run before).report? call).isSome = true) GuardCall.IsCheck
        calls := by
  induction calls using List.reverseRecOn with
  | nil => exact iff_of_false (by simp [run, hnew.inTimeout]) (not_heldSince_nil _ _)
  | append_singleton calls call ih => rw [run_concat, inTimeout_after, heldSince_concat, ih]

theorem isSome_report?_check {g : SilenceGuard} (hrepeats : g.repeats = true) (now : Instant) :
    (g.report? (.check now : GuardCall α)).isSome = true ↔
      g.timeout ≤ now.spanSince (g.lastSeen.getD now) := by
  rw [report?]
  rcases g.check_cases (α := α) now with ⟨hspan, heq⟩ | ⟨-, ⟨-, hsilent⟩, -⟩ | ⟨hlate, -, heq⟩
  · rw [heq]
    exact iff_of_false Bool.false_ne_true (Nat.not_le.mpr hspan)
  · cases hrepeats.symm.trans hsilent
  · rw [heq]
    exact iff_of_true rfl hlate

/-- Where times do not go back, a guard reports silences as it is set to, whatever the spacing of
the checks is. -/
theorem reports_silences {marker : String} {timeout : Span} {repeats : Bool} {g : SilenceGuard}
    (hcreate : create marker timeout repeats = .ok g) {calls : List (GuardCall α)}
    (horder : (calls.map GuardCall.time).Pairwise (· ≤ ·)) : g.ReportsSilences calls := by
  have hnew := isNew_create hcreate
  constructor
  case covered => exact fun before now _ _ => exists_isSilence before now
  case once =>
    rintro hrepeats early start checks rest - hsilence
    exact hnew.reports_silence hrepeats hsilence
  case again =>
    rintro hrepeats early start checks now rest rfl hsilence
    obtain ⟨-, htimeout, hrepeats'⟩ := g.run_rest (early ++ checks.map .check)
    rw [List.map_append] at horder
    rw [isSome_report?_check (hrepeats'.trans hrepeats), htimeout,
      hnew.getD_lastSeen hrepeats hsilence (List.pairwise_append.mp horder).1]
  case failure =>
    rintro before call rest out - hout
    obtain ⟨now, hcall, hreport⟩ := eq_of_report? hout
    obtain ⟨hmarker, htimeout, -⟩ := g.run_rest before
    rw [report, hmarker, htimeout] at hreport
    exact ⟨now, hcall, hreport⟩
  case inTimeout => exact hnew.inTimeout_run calls

/-- Silence on a porch before its first signal, between two signals and after the last one. -/
theorem reports_silences_of_porch :
    let calls : List (GuardCall Rat) :=
      [.check (.ofEpoch 0 0), .check (.ofEpoch 60 0), .observe (.healthy (.ofEpoch 60 0) 21),
       .check (.ofEpoch 100 0), .process (.failure (.ofEpoch 110 0) none (.sensor "gone")),
       .check (.ofEpoch 170 0), .check (.ofEpoch 190 0), .check (.ofEpoch 200 0)]
    ∃ g : SilenceGuard, create "porch" (Span.seconds 30) true = .ok g ∧
      (calls.map GuardCall.time).Pairwise (· ≤ ·) ∧ g.ReportsSilences calls := by
  intro calls
  have horder : (calls.map GuardCall.time).Pairwise (· ≤ ·) := by decide
  have hcreate : create "porch" (Span.seconds 30) true =
      .ok ⟨"porch", Span.seconds 30, true, false, none⟩ := rfl
  exact ⟨_, hcreate, horder, reports_silences hcreate horder⟩

end SilenceGuard

end HomeClimate
