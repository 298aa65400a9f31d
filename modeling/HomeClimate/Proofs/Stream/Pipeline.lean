import HomeClimate.Stream.Pipeline
import Mathlib.Data.List.Basic

/-!
# What a pipeline comes to

The stages of a pipeline take their items in any order, and the order does not matter.
What carries this is `Pipeline.outcome`: the stages as they will be, and the output as it
will be, when everything that waits and some items that are still to come have gone
through.  A stage that takes an item does not change the outcome (`outcome_advance`): the
item is now farther down the row, and each queue has the same items in the same order
before it.  An item that arrives is one of those that were still to come (`outcome_push`).
So the outcome of a run is known before the run starts, and when every queue is empty it is
what there is (`run_eq`).

That outcome is the one of the row without queues, where each item is handed through all
stages before the next one (`outcome_ofStages`).  A run can always be completed
(`exists_advances`).
-/

namespace HomeClimate.Pipeline

variable {σ α : Type} {step : StageStep σ α}

/-! ## Outcomes -/

/-- The pipeline when all that waits and some items more have gone through. -/
def outcome (step : StageStep σ α) (p : Pipeline σ α) (items : List α) : Pipeline σ α :=
  ⟨(drain step p.links items).1, p.output ++ (drain step p.links items).2⟩

theorem outcome_nil (output items : List α) :
    outcome step ⟨[], output⟩ items = ⟨[], output ++ items⟩ := rfl

theorem outcome_cons (l : Link σ α) (p : Pipeline σ α) (items : List α) :
    outcome step (cons l p) items =
      cons ⟨(feedStage step l.state (l.waiting ++ items)).1, []⟩
        (outcome step p (feedStage step l.state (l.waiting ++ items)).2) := rfl

theorem settle_eq_outcome (p : Pipeline σ α) : p.settle step = p.outcome step [] := rfl

theorem feedStage_append (s : σ) (items more : List α) :
    feedStage step s (items ++ more) =
      ((feedStage step (feedStage step s items).1 more).1,
        (feedStage step s items).2 ++ (feedStage step (feedStage step s items).1 more).2) := by
  induction items generalizing s with
  | nil => rfl
  | cons a items ih => simp [feedStage, ih]

/-- Items that have arrived are no longer to come. -/
theorem outcome_push (p : Pipeline σ α) (items more : List α) :
    outcome step (p.push items) more = outcome step p (items ++ more) := by
  obtain ⟨links, output⟩ := p
  cases links with
  | nil => simp [push, outcome_nil]
  | cons l links =>
      have hfront : (⟨l :: links, output⟩ : Pipeline σ α) = cons l ⟨links, output⟩ := rfl
      have hpush : push ⟨l :: links, output⟩ items =
        cons ⟨l.state, l.waiting ++ items⟩ ⟨links, output⟩ := rfl
      rw [hpush, hfront, outcome_cons, outcome_cons, List.append_assoc]

/-- A stage that takes an item changes nothing about what the pipeline comes to. -/
theorem outcome_advance (p : Pipeline σ α) (n : Nat) (items : List α) :
    outcome step (p.advance step n) items = outcome step p items := by
  obtain ⟨links, output⟩ := p
  induction n generalizing links items with
  | zero =>
      cases links with
      | nil => rfl
      | cons l links =>
          obtain ⟨s, waiting⟩ := l
          cases waiting with
          | nil => rfl
          | cons a waiting =>
              have hfront : (⟨⟨s, a :: waiting⟩ :: links, output⟩ : Pipeline σ α) =
                cons ⟨s, a :: waiting⟩ ⟨links, output⟩ := rfl
              have htaken : advance step ⟨⟨s, a :: waiting⟩ :: links, output⟩ 0 =
                cons ⟨(step s a).1, waiting⟩ (push ⟨links, output⟩ (step s a).2.toList) := rfl
              rw [htaken, hfront, outcome_cons, outcome_cons, outcome_push]
              rfl
  | succ n ih =>
      cases links with
      | nil => rfl
      | cons l links =>
          have hfront : (⟨l :: links, output⟩ : Pipeline σ α) = cons l ⟨links, output⟩ := rfl
          have hlater : advance step ⟨l :: links, output⟩ (n + 1) =
            cons l (advance step ⟨links, output⟩ n) := rfl
          rw [hlater, hfront, outcome_cons, outcome_cons, ih]

/-! ## Empty queues -/

/-- Whether nothing waits anywhere. -/
def IsIdle (p : Pipeline σ α) : Prop := ∀ l ∈ p.links, l.waiting = []

theorem links_of_isIdle {p : Pipeline σ α} (h : p.IsIdle) :
    p.links = p.states.map fun s => ⟨s, []⟩ := by
  rw [states, List.map_map]
  refine (List.map_id _).symm.trans (List.map_congr_left fun l hl => ?_)
  obtain ⟨s, waiting⟩ := l
  cases h _ hl
  rfl

theorem drain_nil (step : StageStep σ α) (stages : List σ) :
    drain step (stages.map fun s => ⟨s, []⟩) [] = (stages.map fun s => ⟨s, []⟩, []) := by
  induction stages with
  | nil => rfl
  | cons s stages ih =>
      rw [List.map_cons, drain]
      simp only [List.append_nil, feedStage]
      rw [ih]

/-- A pipeline in which nothing waits is what it comes to. -/
theorem outcome_of_isIdle {p : Pipeline σ α} (h : p.IsIdle) : outcome step p [] = p := by
  rw [outcome, links_of_isIdle h, drain_nil, ← links_of_isIdle h, List.append_nil]

theorem isIdle_outcome (p : Pipeline σ α) (items : List α) : (outcome step p items).IsIdle := by
  obtain ⟨links, output⟩ := p
  induction links generalizing items with
  | nil => exact nofun
  | cons l links ih =>
      intro l' hl'
      rcases List.mem_cons.mp hl' with rfl | hl'
      · rfl
      · exact ih _ l' hl'

/-! ## Without queues -/

/-- One item that comes to stages with empty queues is handed through all of them. -/
theorem drain_singleton (step : StageStep σ α) (stages : List σ) (a : α) :
    drain step (stages.map fun s => ⟨s, []⟩) [a] =
      ((pass step stages a).1.map fun s => ⟨s, []⟩, (pass step stages a).2.toList) := by
  induction stages generalizing a with
  | nil => rfl
  | cons s stages ih =>
      rw [List.map_cons, drain, pass]
      simp only [List.nil_append, feedStage]
      cases step s a with
      | mk s' emitted =>
          cases emitted with
          | none =>
              simp only [Option.toList_none, List.append_nil]
              rw [drain_nil]
              rfl
          | some b =>
              simp only [Option.toList_some, List.append_nil]
              rw [ih]
              rfl

theorem settle_push (step : StageStep σ α) (stages : List σ) (a : α) :
    ((ofStages stages).push [a]).settle step =
      ⟨(pass step stages a).1.map fun s => ⟨s, []⟩, (pass step stages a).2.toList⟩ := by
  rw [settle_eq_outcome, outcome_push, List.append_nil]
  exact congrArg (fun drained : List (Link σ α) × List α => Pipeline.mk drained.1 drained.2)
    (drain_singleton step stages a)

theorem drain_append (step : StageStep σ α) (links : List (Link σ α)) (items more : List α) :
    drain step links (items ++ more) =
      ((drain step (drain step links items).1 more).1,
        (drain step links items).2 ++ (drain step (drain step links items).1 more).2) := by
  induction links generalizing items more with
  | nil => rfl
  | cons l links ih =>
      simp only [drain]
      rw [← List.append_assoc, feedStage_append, ih]
      rfl

/-- Stages with empty queues come to what they come to without queues. -/
theorem drain_eq_passAll (step : StageStep σ α) (stages : List σ) (items : List α) :
    drain step (stages.map fun s => ⟨s, []⟩) items =
      ((passAll step stages items).1.map fun s => ⟨s, []⟩, (passAll step stages items).2) := by
  induction items generalizing stages with
  | nil => exact drain_nil step stages
  | cons a items ih =>
      rw [← List.singleton_append, drain_append, drain_singleton, ih]
      rfl

theorem outcome_ofStages (step : StageStep σ α) (stages : List σ) (items : List α) :
    outcome step (ofStages stages) items =
      ⟨(passAll step stages items).1.map fun s => ⟨s, []⟩, (passAll step stages items).2⟩ := by
  rw [outcome, ofStages, drain_eq_passAll]
  rfl

/-- Two rows one behind the other: what leaves the first one goes through the second. -/
theorem pass_append (stages more : List σ) (a : α) :
    pass step (stages ++ more) a =
      match pass step stages a with
      | (stages, none) => (stages ++ more, none)
      | (stages, some b) => (stages ++ (pass step more b).1, (pass step more b).2) := by
  induction stages generalizing a with
  | nil => rfl
  | cons s stages ih =>
      rw [List.cons_append, pass, pass]
      cases step s a with
      | mk s' emitted =>
          cases emitted with
          | none => rfl
          | some b =>
              dsimp only
              rw [ih]
              cases pass step stages b with
              | mk stages' out => cases out <;> rfl

/-! ## Runs -/

/-- What can happen to a pipeline. -/
inductive Move (α : Type) where
  /-- An item comes in. -/
  | arrive (item : α)
  /-- The stage of a number takes one item, if it has one. -/
  | advance (stage : Nat)

/-- The item that a move brings, if it brings one. -/
def Move.item? : Move α → Option α
  | .arrive item => some item
  | .advance _ => none

/-- The pipeline after a move. -/
def move (step : StageStep σ α) (p : Pipeline σ α) : Move α → Pipeline σ α
  | .arrive item => p.push [item]
  | .advance stage => p.advance step stage

/-- The pipeline after some moves. -/
def run (step : StageStep σ α) (p : Pipeline σ α) (moves : List (Move α)) : Pipeline σ α :=
  moves.foldl (move step) p

theorem outcome_move (p : Pipeline σ α) (m : Move α) (items : List α) :
    outcome step (p.move step m) items = outcome step p (m.item?.toList ++ items) := by
  cases m with
  | arrive item => exact outcome_push p [item] items
  | advance stage => exact outcome_advance p stage items

/-- What a pipeline comes to after some moves it comes to from the start, with the items that they
bring. -/
theorem outcome_run (step : StageStep σ α) (p : Pipeline σ α) (moves : List (Move α))
    (items : List α) :
    outcome step (p.run step moves) items =
      outcome step p (moves.filterMap Move.item? ++ items) := by
  induction moves generalizing p with
  | nil => rfl
  | cons m rest ih =>
      have hfirst : p.run step (m :: rest) = (p.move step m).run step rest := rfl
      rw [hfirst, ih, outcome_move]
      cases h : m.item? <;> simp [h]

/-- When every queue is empty, a pipeline is as it would be without queues. -/
theorem run_eq {stages : List σ} {moves : List (Move α)}
    (h : ((ofStages stages).run step moves).IsIdle) :
    let items := moves.filterMap Move.item?
    ((ofStages stages).run step moves).states = (passAll step stages items).1 ∧
      ((ofStages stages).run step moves).output = (passAll step stages items).2 := by
  have hrun := outcome_run step (ofStages stages) moves []
  rw [outcome_of_isIdle h, List.append_nil, outcome_ofStages] at hrun
  rw [hrun]
  simp [states, Function.comp_def]

/-! ## Runs that end -/

/-- A stage can take everything that waits for it. -/
theorem exists_advances_front (step : StageStep σ α) (l : Link σ α) (p : Pipeline σ α) :
    ∃ moves : List Nat, moves.foldl (advance step) (cons l p) =
      cons ⟨(feedStage step l.state l.waiting).1, []⟩
        (p.push (feedStage step l.state l.waiting).2) := by
  obtain ⟨s, waiting⟩ := l
  induction waiting generalizing s p with
  | nil =>
      refine ⟨[], ?_⟩
      obtain ⟨links, output⟩ := p
      cases links <;> simp [feedStage, push]
  | cons a waiting ih =>
      obtain ⟨moves, hmoves⟩ := ih (p.push (step s a).2.toList) (step s a).1
      refine ⟨0 :: moves, ?_⟩
      have htaken : advance step (cons ⟨s, a :: waiting⟩ p) 0 =
        cons ⟨(step s a).1, waiting⟩ (p.push (step s a).2.toList) := rfl
      rw [List.foldl_cons, htaken, hmoves]
      obtain ⟨links, output⟩ := p
      cases links <;> simp [feedStage, push]

theorem foldl_advance_cons (l : Link σ α) (p : Pipeline σ α) (moves : List Nat) :
    (moves.map Nat.succ).foldl (advance step) (cons l p) =
      cons l (moves.foldl (advance step) p) := by
  induction moves generalizing p with
  | nil => rfl
  | cons n moves ih => exact ih (advance step p n)

/-- Whatever waits, the stages can take it all. -/
theorem exists_advances (step : StageStep σ α) (p : Pipeline σ α) :
    ∃ moves : List Nat, moves.foldl (advance step) p = p.settle step := by
  obtain ⟨links, output⟩ := p
  suffices h : ∀ items, ∃ moves : List Nat,
      moves.foldl (advance step) (push ⟨links, output⟩ items) =
        outcome step ⟨links, output⟩ items by
    obtain ⟨moves, hmoves⟩ := h []
    refine ⟨moves, ?_⟩
    rw [settle_eq_outcome, ← hmoves]
    cases links <;> simp [push]
  intro items
  induction links generalizing items with
  | nil => exact ⟨[], rfl⟩
  | cons l links ih =>
      obtain ⟨first, hfirst⟩ := exists_advances_front step
        ⟨l.state, l.waiting ++ items⟩ ⟨links, output⟩
      obtain ⟨more, hmore⟩ := ih (feedStage step l.state (l.waiting ++ items)).2
      refine ⟨first ++ more.map Nat.succ, ?_⟩
      have hpush : push ⟨l :: links, output⟩ items =
        cons ⟨l.state, l.waiting ++ items⟩ ⟨links, output⟩ := rfl
      rw [List.foldl_append, hpush, hfirst, foldl_advance_cons, hmore]
      rfl

end HomeClimate.Pipeline
