import HomeClimate.House.Line
import HomeClimate.Proofs.Outcome
import HomeClimate.Proofs.Stream.Tasks

/-!
# Sensor chains on tasks

A sensor chain can process readings itself, one after the other, or its filters can run on
tasks of their own with queues between them.  The readings that are under way then are at
different filters at one time, and which filter works next is nobody's to say.  All the same
the chain gives the same signals (`staging_is_transparent`).

Nothing about this depends on what filters do.  So it is stated for stages of any kind first,
and the chain is a row of four of them (`passAll_stages`).
-/

namespace HomeClimate

variable {ν : Type} [Scalar ν]

namespace SensorChain

/-- The chain after some readings, each handed through all filters before the next one, and what
comes out. -/
def processAll (c : SensorChain ν) : List (Signal ν) → SensorChain ν × List (Signal ν)
  | [] => (c, [])
  | reading :: rest =>
    let (c, out) := c.process reading
    let (c, more) := c.processAll rest
    (c, out.toList ++ more)

/-- The filters before the guard give what the chain gives. -/
theorem pass_filters (c : SensorChain ν) (reading : Signal ν) :
    Pipeline.pass FilterStage.process
        [.fallback c.fallback, .median c.median, .orderGuard c.order] reading =
      ([.fallback (c.process reading).1.fallback, .median (c.process reading).1.median,
        .orderGuard (c.process reading).1.order], (c.process reading).2) := by
  simp only [Pipeline.pass, FilterStage.process, process]
  cases c.fallback.process reading with
  | mk fallback picked =>
      cases picked with
      | none => rfl
      | some picked =>
          dsimp only
          cases c.order.process (c.median.process picked).2 with
          | mk order ordered =>
              cases ordered with
              | none => rfl
              | some ordered => rfl

theorem passAll_filters (c : SensorChain ν) (readings : List (Signal ν)) :
    Pipeline.passAll FilterStage.process
        [.fallback c.fallback, .median c.median, .orderGuard c.order] readings =
      ([.fallback (c.processAll readings).1.fallback, .median (c.processAll readings).1.median,
        .orderGuard (c.processAll readings).1.order], (c.processAll readings).2) := by
  induction readings generalizing c with
  | nil => rfl
  | cons reading rest ih =>
      rw [Pipeline.passAll, pass_filters]
      dsimp only
      rw [ih]
      rfl

/-- The guard of a chain has seen what came out of the chain. -/
theorem silence_process (c : SensorChain ν) (reading : Signal ν) :
    (c.process reading).1.silence =
      (c.process reading).2.toList.foldl SilenceGuard.observe c.silence := by
  rw [process]
  cases c.fallback.process reading with
  | mk fallback picked =>
      cases picked with
      | none => rfl
      | some picked =>
          dsimp only
          cases c.order.process (c.median.process picked).2 with
          | mk order ordered =>
              cases ordered with
              | none => rfl
              | some ordered => rfl

theorem pass_stages (c : SensorChain ν) (reading : Signal ν) :
    Pipeline.pass FilterStage.process c.stages reading =
      ((c.process reading).1.stages, (c.process reading).2) := by
  have hsilence := c.silence_process reading
  have hstages : c.stages = [.fallback c.fallback, .median c.median, .orderGuard c.order] ++
    [.silenceGuard c.silence] := rfl
  rw [hstages, Pipeline.pass_append, pass_filters, stages, hsilence]
  cases (c.process reading).2 <;> rfl

theorem passAll_stages (c : SensorChain ν) (readings : List (Signal ν)) :
    Pipeline.passAll FilterStage.process c.stages readings =
      ((c.processAll readings).1.stages, (c.processAll readings).2) := by
  induction readings generalizing c with
  | nil => rfl
  | cons reading rest ih =>
      rw [Pipeline.passAll, pass_stages]
      dsimp only
      rw [ih]
      rfl

theorem silence_processAll (c : SensorChain ν) (readings : List (Signal ν)) :
    (c.processAll readings).1.silence =
      (c.processAll readings).2.foldl SilenceGuard.observe c.silence := by
  induction readings generalizing c with
  | nil => rfl
  | cons reading rest ih =>
      rw [processAll]
      dsimp only
      rw [ih, silence_process, List.foldl_append]

end SensorChain

omit [Scalar ν] in
theorem SilenceWatch.guard_foldl_arrive (w : SilenceWatch) (elapsed : Span)
    (signals : List (Signal ν)) :
    (signals.foldl (fun w s => w.arrive elapsed s) w).guard =
      signals.foldl SilenceGuard.observe w.guard := by
  induction signals generalizing w with
  | nil => rfl
  | cons s signals ih => exact ih (w.arrive elapsed s)

/-- A line that runs gives what its chain gives, however far its filters have worked already. -/
theorem SensorLine.settle_run (c : SensorChain ν) (elapsed : Span)
    (moves : List (Pipeline.Move (Signal ν))) :
    ∃ l, settle { start c elapsed with
          filters := (start c elapsed).filters.run FilterStage.process moves } true elapsed =
        (l, (c.processAll (moves.filterMap Pipeline.Move.item?)).2) ∧
      l.filters.states =
        [.fallback (c.processAll (moves.filterMap Pipeline.Move.item?)).1.fallback,
          .median (c.processAll (moves.filterMap Pipeline.Move.item?)).1.median,
          .orderGuard (c.processAll (moves.filterMap Pipeline.Move.item?)).1.order] ∧
      l.watch.map SilenceWatch.guard =
        some (c.processAll (moves.filterMap Pipeline.Move.item?)).1.silence := by
  have hrun := Pipeline.outcome_run FilterStage.process (start c elapsed).filters moves []
  rw [List.append_nil, start, Pipeline.outcome_ofStages, c.passAll_filters,
    ← Pipeline.settle_eq_outcome] at hrun
  rw [SensorLine.settle, start]
  dsimp only at hrun ⊢
  rw [hrun]
  refine ⟨_, rfl, rfl, ?_⟩
  rw [c.silence_processAll]
  exact congrArg some (SilenceWatch.guard_foldl_arrive _ _ _)

/-- Staging is transparent.

* Stages of any types on tasks with bounded queues: in whatever order the tasks make their steps,
  when every queue is empty, what was received and the stages are what comes of handing each item
  through all stages before the next one.  If queues have room at all, the tasks can always get
  there.
* The same of a pipeline, into which items may come at any time.
* Hence the filters of a sensor chain, on tasks or as a pipeline, give what the chain gives that
  processes the readings itself, and end as its filters do.
* So does a sensor line that runs, with its guard behind the other filters, however far they have
  worked when it settles. -/
theorem staging_is_transparent :
    (∀ {α γ : Type} (row : TaskRow α γ), row.IsIdle →
      ∀ (items : List α) (capacity : Nat) (moves : List TaskMove),
        let line := (TaskLine.start row items).run capacity moves
        (line.IsIdle → line.row = (row.passAll items).1 ∧ line.received = (row.passAll items).2) ∧
          (0 < capacity → ∃ more, (line.run capacity more).IsIdle)) ∧
    (∀ {σ α : Type} (step : StageStep σ α) (stages : List σ) (moves : List (Pipeline.Move α)),
      let p := (Pipeline.ofStages stages).run step moves
      let items := moves.filterMap Pipeline.Move.item?
      (p.IsIdle → p.states = (Pipeline.passAll step stages items).1 ∧
          p.output = (Pipeline.passAll step stages items).2) ∧
        ∃ more : List Nat, (more.foldl (Pipeline.advance step) p).IsIdle) ∧
    (∀ (c : SensorChain ν) (readings : List (Signal ν)) (capacity : Nat) (moves : List TaskMove),
      let row := TaskRow.ofStages FilterStage.process c.stages
      let line := (TaskLine.start row readings).run capacity moves
      line.IsIdle →
        line.row = TaskRow.ofStages FilterStage.process (c.processAll readings).1.stages ∧
          line.received = (c.processAll readings).2) ∧
    (∀ (c : SensorChain ν) (moves : List (Pipeline.Move (Signal ν))),
      let p := (Pipeline.ofStages c.stages).run FilterStage.process moves
      let readings := moves.filterMap Pipeline.Move.item?
      p.IsIdle → p.states = (c.processAll readings).1.stages ∧
        p.output = (c.processAll readings).2) ∧
    ∀ (c : SensorChain ν) (elapsed : Span) (moves : List (Pipeline.Move (Signal ν))),
      let start := SensorLine.start c elapsed
      let readings := moves.filterMap Pipeline.Move.item?
      let c' := (c.processAll readings).1
      ∃ l : SensorLine ν,
        { start with filters := start.filters.run FilterStage.process moves }.settle true elapsed =
          (l, (c.processAll readings).2) ∧
        l.filters.states = [.fallback c'.fallback, .median c'.median, .orderGuard c'.order] ∧
        l.watch.map SilenceWatch.guard = some c'.silence := by
  refine ⟨?_, ?_, ?_, ?_, SensorLine.settle_run⟩
  · intro α γ row hrow items capacity moves line
    exact ⟨fun hidle => TaskLine.run_eq hrow hidle, fun hroom => line.exists_run_isIdle hroom⟩
  · intro σ α step stages moves p items
    refine ⟨fun hidle => Pipeline.run_eq hidle, ?_⟩
    obtain ⟨more, hmore⟩ := Pipeline.exists_advances step p
    exact ⟨more, hmore ▸ Pipeline.isIdle_outcome p []⟩
  · intro c readings capacity moves row line hidle
    obtain ⟨hrow, hreceived⟩ := TaskLine.run_eq (TaskRow.isIdle_ofStages _ c.stages) hidle
    rw [TaskRow.passAll_ofStages, c.passAll_stages] at hrow hreceived
    exact ⟨hrow, hreceived⟩
  · intro c moves p readings hidle
    obtain ⟨hstates, houtput⟩ := Pipeline.run_eq hidle
    rw [c.passAll_stages] at hstates houtput
    exact ⟨hstates, houtput⟩

/-- One stage doubles the odd numbers and drops the others, and counts them all; the next one passes
on what is larger than anything before.  Sender, stages and receiver take turns, with room for one
item in each queue. -/
theorem odd_numbers_doubled :
    let double : Nat → Nat → Nat × Option Nat := fun count n =>
      (count + 1, if n % 2 = 1 then some (2 * n) else none)
    let rise : Option Nat → Nat → Option Nat × Option String := fun last n =>
      if last.all (· < n) then (some n, some (toString n)) else (last, none)
    let row (count : Nat) (last : Option Nat) : TaskRow Nat String :=
      .stage double count [] none (.stage rise last [] none .done)
    let turn : List TaskMove := [.receive, .hand 1, .hand 0, .take 0, .take 1, .send]
    let line := (TaskLine.start (row 0 none) [1, 2, 5, 3, 7]).run 1 (List.replicate 12 turn).flatten
    line.row = row 5 (some 14) ∧ line.received = ["2", "10", "14"] := by
  intro double rise row turn line
  have hidle : line.IsIdle := by decide +kernel
  have hrow : (row 0 none).IsIdle := ⟨rfl, rfl, rfl, rfl, trivial⟩
  exact ((staging_is_transparent (ν := Rat)).1 (row 0 none) hrow [1, 2, 5, 3, 7] 1 _).1 hidle

end HomeClimate
