import HomeClimate.Proofs.Stream.Pipeline

/-!
# Stages on tasks

A pipeline does not say how a stage comes by its items and gets rid of them.  Here each
stage is a task between two bounded queues.  A task takes an item only when it has handed on
what it made of the item before, and it hands that on only where there is room, so a full
queue holds up all tasks before it.  What goes into the first queue and what comes out of the
last are tasks too.  The stages are of any types that fit together (`TaskRow`).

A step of one task changes nothing about what the row comes to (`TaskLine.outcome_move`), as
in a pipeline: an item that was taken and not handed on is the last of those that wait for
the next stage.  So a row of tasks that has come to rest has delivered what the stages make of
the items without queues, each item after the other, and left each stage in the state that it
then has (`TaskLine.run_eq`).

The row never gets stuck: while there is work, some task can do a part of it
(`TaskLine.exists_move`), unless the queues have no room at all.
-/

namespace HomeClimate

/-- Stages in a row that turn items of one type into items of another. -/
inductive TaskRow : Type → Type → Type 1 where
  /-- No stage. -/
  | done {α : Type} : TaskRow α α
  /-- A stage with the items that wait for it, the oldest first, and with what it has given and not
  handed on yet, before the stages after it. -/
  | stage {σ α β γ : Type} (step : σ → α → σ × Option β) (state : σ) (waiting : List α)
      (given : Option β) (rest : TaskRow β γ) : TaskRow α γ

namespace TaskRow

variable {σ α β γ : Type}

/-- How many stages there are. -/
def length : {α γ : Type} → TaskRow α γ → Nat
  | _, _, done => 0
  | _, _, stage _ _ _ _ rest => rest.length + 1

/-- Whether no item is anywhere. -/
def IsIdle : {α γ : Type} → TaskRow α γ → Prop
  | _, _, done => True
  | _, _, stage _ _ waiting given rest => waiting = [] ∧ given = none ∧ rest.IsIdle

instance decidableIsIdle : {α γ : Type} → (row : TaskRow α γ) → Decidable row.IsIdle
  | _, _, done => .isTrue trivial
  | _, _, stage _ _ waiting given rest =>
    have := rest.decidableIsIdle
    decidable_of_iff (waiting.isEmpty = true ∧ given.isNone = true ∧ rest.IsIdle)
      (by rw [List.isEmpty_iff, Option.isNone_iff_eq_none, IsIdle])

/-! ## Steps -/

/-- The row after the stage of a number took one item, if it has handed on what it gave before and
there is one. -/
def take : {α γ : Type} → TaskRow α γ → Nat → TaskRow α γ
  | _, _, stage step state (a :: waiting) none rest, 0 =>
    stage step (step state a).1 waiting (step state a).2 rest
  | _, _, stage step state waiting given rest, n + 1 =>
    stage step state waiting given (rest.take n)
  | _, _, row, _ => row

/-- The row and the queue after it with one more item, if there is room for it in the first of all
queues. -/
def offer (capacity : Nat) : {α γ : Type} → TaskRow α γ → List γ → α → Option (TaskRow α γ × List γ)
  | _, _, done, ready, a =>
    if ready.length < capacity then some (done, ready ++ [a]) else none
  | _, _, stage step state waiting given rest, ready, a =>
    if waiting.length < capacity then some (stage step state (waiting ++ [a]) given rest, ready)
    else none

/-- The row and the queue after it when the stage of a number has handed on what it gave, if it gave
something and there is room. -/
def hand (capacity : Nat) : {α γ : Type} → TaskRow α γ → List γ → Nat → TaskRow α γ × List γ
  | _, _, stage step state waiting (some b) rest, ready, 0 =>
    match rest.offer capacity ready b with
    | some (rest, ready) => (stage step state waiting none rest, ready)
    | none => (stage step state waiting (some b) rest, ready)
  | _, _, stage step state waiting given rest, ready, n + 1 =>
    (stage step state waiting given (rest.hand capacity ready n).1, (rest.hand capacity ready n).2)
  | _, _, row, ready, _ => (row, ready)

/-! ## Without queues -/

/-- One item handed through all stages, and what leaves the last one. -/
def pass : {α γ : Type} → TaskRow α γ → α → TaskRow α γ × Option γ
  | _, _, done, a => (done, some a)
  | _, _, stage step state waiting given rest, a =>
    match step state a with
    | (state, none) => (stage step state waiting given rest, none)
    | (state, some b) => (stage step state waiting given (rest.pass b).1, (rest.pass b).2)

/-- Items handed through all stages, each before the next one. -/
def passAll (row : TaskRow α γ) : List α → TaskRow α γ × List γ
  | [] => (row, [])
  | a :: items =>
    let (row, out) := row.pass a
    let (row, more) := row.passAll items
    (row, out.toList ++ more)

/-- Stages of one kind of step on items of one type. -/
def ofStages (step : StageStep σ α) : List σ → TaskRow α α
  | [] => done
  | s :: stages => stage step s [] none (ofStages step stages)

theorem isIdle_ofStages (step : StageStep σ α) (stages : List σ) :
    (ofStages step stages).IsIdle := by
  induction stages with
  | nil => trivial
  | cons s stages ih => exact ⟨rfl, rfl, ih⟩

theorem pass_ofStages (step : StageStep σ α) (stages : List σ) (a : α) :
    (ofStages step stages).pass a =
      (ofStages step (Pipeline.pass step stages a).1, (Pipeline.pass step stages a).2) := by
  induction stages generalizing a with
  | nil => rfl
  | cons s stages ih =>
      rw [ofStages, pass, Pipeline.pass]
      cases step s a with
      | mk s' emitted =>
          cases emitted with
          | none => rfl
          | some b =>
              dsimp only
              rw [ih]
              rfl

theorem passAll_ofStages (step : StageStep σ α) (stages : List σ) (items : List α) :
    (ofStages step stages).passAll items =
      (ofStages step (Pipeline.passAll step stages items).1,
        (Pipeline.passAll step stages items).2) := by
  induction items generalizing stages with
  | nil => rfl
  | cons a items ih =>
      rw [passAll, pass_ofStages]
      dsimp only
      rw [ih]
      rfl

/-! ## What a row comes to -/

/-- A stage after some items, and what it gave for them. -/
def feed (step : σ → α → σ × Option β) (s : σ) : List α → σ × List β
  | [] => (s, [])
  | a :: items =>
    ((feed step (step s a).1 items).1, (step s a).2.toList ++ (feed step (step s a).1 items).2)

/-- The row when all that is in it and some items more have gone through, and what leaves it. -/
def finish : {α γ : Type} → TaskRow α γ → List α → TaskRow α γ × List γ
  | _, _, done, items => (done, items)
  | _, _, stage step state waiting given rest, items =>
    let fed := feed step state (waiting ++ items)
    let finished := rest.finish (given.toList ++ fed.2)
    (stage step fed.1 [] none finished.1, finished.2)

theorem feed_append (step : σ → α → σ × Option β) (s : σ) (items more : List α) :
    feed step s (items ++ more) =
      ((feed step (feed step s items).1 more).1,
        (feed step s items).2 ++ (feed step (feed step s items).1 more).2) := by
  induction items generalizing s with
  | nil => rfl
  | cons a items ih => simp [feed, ih]

theorem finish_append (row : TaskRow α γ) (items more : List α) :
    row.finish (items ++ more) =
      (((row.finish items).1.finish more).1,
        (row.finish items).2 ++ ((row.finish items).1.finish more).2) := by
  induction row with
  | done => rfl
  | stage step state waiting given rest ih =>
      simp only [finish]
      rw [← List.append_assoc, feed_append]
      dsimp only
      rw [← List.append_assoc, ih]
      rfl

theorem isIdle_finish (row : TaskRow α γ) (items : List α) : (row.finish items).1.IsIdle := by
  induction row with
  | done => trivial
  | stage step state waiting given rest ih => exact ⟨rfl, rfl, ih _⟩

/-- A row in which no item is anywhere is what it comes to. -/
theorem finish_nil {row : TaskRow α γ} (h : row.IsIdle) : row.finish [] = (row, []) := by
  induction row with
  | done => rfl
  | stage step state waiting given rest ih =>
      obtain ⟨rfl, rfl, hrest⟩ := h
      simp [finish, feed, ih hrest]

/-- One item that comes to a row without items is handed through all of it. -/
theorem finish_singleton {row : TaskRow α γ} (h : row.IsIdle) (a : α) :
    row.finish [a] = ((row.pass a).1, (row.pass a).2.toList) := by
  induction row with
  | done => rfl
  | stage step state waiting given rest ih =>
      obtain ⟨rfl, rfl, hrest⟩ := h
      simp only [finish, feed, pass, List.nil_append, Option.toList_none, List.append_nil]
      cases step state a with
      | mk state emitted =>
          cases emitted with
          | none => simp [finish_nil hrest]
          | some b => simp [ih hrest]

/-- A row without items comes to what it comes to without queues. -/
theorem finish_eq_passAll {row : TaskRow α γ} (h : row.IsIdle) (items : List α) :
    row.finish items = row.passAll items := by
  induction items generalizing row with
  | nil => exact finish_nil h
  | cons a items ih =>
      have hidle : (row.pass a).1.IsIdle := by
        have hfinished := row.isIdle_finish [a]
        rwa [finish_singleton h] at hfinished
      rw [← List.singleton_append, finish_append, finish_singleton h, ih hidle]
      rfl

/-- A stage that takes an item changes nothing about what the row comes to. -/
theorem finish_take (row : TaskRow α γ) (n : Nat) (items : List α) :
    (row.take n).finish items = row.finish items := by
  induction row generalizing n with
  | done => cases n <;> rfl
  | stage step state waiting given rest ih =>
      cases n with
      | succ n => simp only [take, finish, ih]
      | zero =>
          cases given with
          | some b => cases waiting <;> rfl
          | none =>
              cases waiting with
              | nil => rfl
              | cons a waiting => rfl

/-- An item that was let in is the first of those that were to come. -/
theorem finish_offer {capacity : Nat} {row row' : TaskRow α γ} {ready ready' : List γ} {a : α}
    (h : row.offer capacity ready a = some (row', ready')) (items : List α) :
    (row'.finish items).1 = (row.finish (a :: items)).1 ∧
      ready' ++ (row'.finish items).2 = ready ++ (row.finish (a :: items)).2 := by
  cases row with
  | done =>
      rw [offer] at h
      split at h
      · cases h
        exact ⟨rfl, List.append_assoc _ _ _⟩
      · cases h
  | stage step state waiting given rest =>
      rw [offer] at h
      split at h
      · cases h
        simp [finish]
      · cases h

/-- A stage that hands something on changes nothing about what the row comes to. -/
theorem finish_hand (capacity : Nat) (row : TaskRow α γ) (ready : List γ) (n : Nat)
    (items : List α) :
    ((row.hand capacity ready n).1.finish items).1 = (row.finish items).1 ∧
      (row.hand capacity ready n).2 ++ ((row.hand capacity ready n).1.finish items).2 =
        ready ++ (row.finish items).2 := by
  induction row generalizing n with
  | done => cases n <;> exact ⟨rfl, rfl⟩
  | stage step state waiting given rest ih =>
      cases n with
      | succ n =>
          obtain ⟨hrow, hout⟩ := ih ready n (given.toList ++ (feed step state (waiting ++ items)).2)
          simp only [hand, finish]
          exact ⟨by rw [hrow], hout⟩
      | zero =>
          cases given with
          | none => exact ⟨rfl, rfl⟩
          | some b =>
              simp only [hand]
              cases ho : rest.offer capacity ready b with
              | none => exact ⟨rfl, rfl⟩
              | some next =>
                  obtain ⟨hrow, hout⟩ :=
                    finish_offer ho (feed step state (waiting ++ items)).2
                  simp only [finish]
                  exact ⟨congrArg _ hrow, hout⟩

/-! ## Work that is left -/

/-- How many steps the items in the row can take at most. -/
def work : {α γ : Type} → TaskRow α γ → Nat
  | _, _, done => 0
  | _, _, stage _ _ waiting given rest =>
    waiting.length * (2 * rest.length + 3) + given.toList.length * (2 * rest.length + 2) + rest.work

/-- An item that is let in is work for at most two steps in each stage and one behind the last. -/
theorem work_offer {capacity : Nat} {row row' : TaskRow α γ} {ready ready' : List γ} {a : α}
    (h : row.offer capacity ready a = some (row', ready')) :
    row'.length = row.length ∧
      row'.work + ready'.length = row.work + ready.length + (2 * row.length + 1) := by
  cases row with
  | done =>
      rw [offer] at h
      split at h
      · cases h
        simp [length, work]
      · cases h
  | stage step state waiting given rest =>
      rw [offer] at h
      split at h
      · cases h
        refine ⟨rfl, ?_⟩
        simp only [work, length, List.length_append, List.length_singleton, Nat.add_mul]
        omega
      · cases h

/-- A row without items lets one in, if queues have room for any. -/
theorem offer_of_isIdle {capacity : Nat} (hroom : 0 < capacity) {row : TaskRow α γ}
    (h : row.IsIdle) (a : α) : ∃ next, row.offer capacity [] a = some next := by
  cases row with
  | done => exact ⟨_, if_pos hroom⟩
  | stage step state waiting given rest =>
      obtain ⟨rfl, -, -⟩ := h
      exact ⟨_, if_pos hroom⟩

/-- While there are items in the row and room behind it, some stage can take one or hand one on. -/
theorem exists_step {capacity : Nat} (hroom : 0 < capacity) {row : TaskRow α γ}
    (h : ¬ row.IsIdle) :
    (∃ n, (row.take n).length = row.length ∧ (row.take n).work < row.work) ∨
      ∃ n, (row.hand capacity [] n).1.length = row.length ∧
        (row.hand capacity [] n).1.work + (row.hand capacity [] n).2.length < row.work := by
  induction row with
  | done => exact absurd trivial h
  | stage step state waiting given rest ih =>
      by_cases hrest : rest.IsIdle
      · cases given with
        | some b =>
            obtain ⟨⟨rest', ready'⟩, ho⟩ := offer_of_isIdle hroom hrest b
            obtain ⟨hlength, hwork⟩ := work_offer ho
            refine .inr ⟨0, ?_⟩
            simp only [hand, ho, length, work, hlength]
            simp at hwork ⊢
            omega
        | none =>
            cases waiting with
            | nil => exact absurd ⟨rfl, rfl, hrest⟩ h
            | cons a waiting =>
                refine .inl ⟨0, rfl, ?_⟩
                have hgiven : (step state a).2.toList.length ≤ 1 := by
                  cases (step state a).2 <;> simp
                have hbound := Nat.mul_le_mul_right (2 * rest.length + 2) hgiven
                simp only [take, work, List.length_cons, Nat.add_mul]
                simp
                omega
      · rcases ih hrest with ⟨n, hlength, hwork⟩ | ⟨n, hlength, hwork⟩
        · refine .inl ⟨n + 1, by simp [take, length, hlength], ?_⟩
          simp only [take, work, hlength]
          omega
        · refine .inr ⟨n + 1, by simp [hand, length, hlength], ?_⟩
          simp only [hand, work, hlength]
          omega

end TaskRow

/-! ## Rows at work -/

/-- A row of tasks with the items that are still to be sent into it, the queue behind it, and what
was received from there. -/
structure TaskLine (α γ : Type) where
  /-- The items that are still to be sent, the first one first. -/
  source : List α
  /-- The tasks. -/
  row : TaskRow α γ
  /-- What left the last stage and was not received yet, the oldest first. -/
  ready : List γ
  /-- What was received, the oldest first. -/
  received : List γ

/-- A step of one task. -/
inductive TaskMove where
  /-- The sender sends an item, if there is room in the first queue. -/
  | send
  /-- The stage of a number takes an item. -/
  | take (stage : Nat)
  /-- The stage of a number hands on what it gave. -/
  | hand (stage : Nat)
  /-- The receiver takes an item out of the last queue. -/
  | receive

namespace TaskLine

variable {α γ : Type}

/-- Tasks for which some items are to come. -/
def start (row : TaskRow α γ) (items : List α) : TaskLine α γ := ⟨items, row, [], []⟩

/-- Whether everything was received. -/
def IsIdle (l : TaskLine α γ) : Prop := l.source = [] ∧ l.row.IsIdle ∧ l.ready = []

instance (l : TaskLine α γ) : Decidable l.IsIdle :=
  decidable_of_iff (l.source.isEmpty = true ∧ l.row.IsIdle ∧ l.ready.isEmpty = true)
    (by rw [List.isEmpty_iff, List.isEmpty_iff, IsIdle])

/-- The line after a step of one task.  A task that cannot do its step waits. -/
def move (capacity : Nat) (l : TaskLine α γ) : TaskMove → TaskLine α γ
  | .send =>
    match l.source with
    | [] => l
    | a :: source =>
      match l.row.offer capacity l.ready a with
      | some (row, ready) => { l with source, row, ready }
      | none => l
  | .take stage => { l with row := l.row.take stage }
  | .hand stage =>
    { l with row := (l.row.hand capacity l.ready stage).1
             ready := (l.row.hand capacity l.ready stage).2 }
  | .receive =>
    match l.ready with
    | [] => l
    | b :: ready => { l with ready, received := l.received ++ [b] }

/-- The line after some steps. -/
def run (capacity : Nat) (l : TaskLine α γ) (moves : List TaskMove) : TaskLine α γ :=
  moves.foldl (move capacity) l

/-- The row as it will be, and all that will have been received. -/
def outcome (l : TaskLine α γ) : TaskRow α γ × List γ :=
  ((l.row.finish l.source).1, l.received ++ (l.ready ++ (l.row.finish l.source).2))

/-- A step of one task changes nothing about what the line comes to. -/
theorem outcome_move (capacity : Nat) (l : TaskLine α γ) (m : TaskMove) :
    (l.move capacity m).outcome = l.outcome := by
  obtain ⟨source, row, ready, received⟩ := l
  cases m with
  | send =>
      cases source with
      | nil => rfl
      | cons a source =>
          rw [move]
          dsimp only
          cases ho : row.offer capacity ready a with
          | none => rfl
          | some next =>
              obtain ⟨hrow, hout⟩ := TaskRow.finish_offer ho source
              simp only [outcome, hrow, hout]
  | take stage => simp only [outcome, move, TaskRow.finish_take]
  | hand stage =>
      obtain ⟨hrow, hout⟩ := row.finish_hand capacity ready stage source
      simp only [outcome, move, hrow, hout]
  | receive =>
      cases ready with
      | nil => rfl
      | cons b ready => simp [outcome, move]

theorem outcome_run (capacity : Nat) (l : TaskLine α γ) (moves : List TaskMove) :
    (l.run capacity moves).outcome = l.outcome := by
  induction moves generalizing l with
  | nil => rfl
  | cons m rest ih => exact (ih (l.move capacity m)).trans (l.outcome_move capacity m)

theorem outcome_of_isIdle {l : TaskLine α γ} (h : l.IsIdle) : l.outcome = (l.row, l.received) := by
  obtain ⟨source, row, ready, received⟩ := l
  obtain ⟨hsource, hrow, hready⟩ := h
  simp only at hsource hrow hready
  subst hsource hready
  simp [outcome, TaskRow.finish_nil hrow]

/-- When everything was received, it is what the stages give without queues. -/
theorem run_eq {row : TaskRow α γ} (hrow : row.IsIdle) {capacity : Nat} {items : List α}
    {moves : List TaskMove} (h : ((start row items).run capacity moves).IsIdle) :
    ((start row items).run capacity moves).row = (row.passAll items).1 ∧
      ((start row items).run capacity moves).received = (row.passAll items).2 := by
  have hrun := outcome_run capacity (start row items) moves
  rw [outcome_of_isIdle h, outcome, start, TaskRow.finish_eq_passAll hrow] at hrun
  exact Prod.mk.inj hrun

/-! ## Work that is left -/

/-- How many steps the line can make at most. -/
def work (l : TaskLine α γ) : Nat :=
  l.source.length * (2 * l.row.length + 2) + l.row.work + l.ready.length

/-- While there is work, some task can do a part of it. -/
theorem exists_move {capacity : Nat} (hroom : 0 < capacity) {l : TaskLine α γ} (h : ¬ l.IsIdle) :
    ∃ m, (l.move capacity m).work < l.work := by
  obtain ⟨source, row, ready, received⟩ := l
  cases ready with
  | cons b ready => exact ⟨.receive, by simp [work, move]⟩
  | nil =>
      by_cases hrow : row.IsIdle
      · cases source with
        | nil => exact absurd ⟨rfl, hrow, rfl⟩ h
        | cons a source =>
            obtain ⟨⟨row', ready'⟩, ho⟩ := TaskRow.offer_of_isIdle hroom hrow a
            obtain ⟨hlength, hwork⟩ := TaskRow.work_offer ho
            refine ⟨.send, ?_⟩
            simp only [work, move, ho, hlength, List.length_cons, Nat.add_mul] at hwork ⊢
            omega
      · rcases TaskRow.exists_step hroom hrow with ⟨n, hlength, hwork⟩ | ⟨n, hlength, hwork⟩
        · exact ⟨.take n, by simp only [work, move, hlength]; omega⟩
        · refine ⟨.hand n, ?_⟩
          simp only [work, move, hlength, List.length_nil]
          omega

/-- Whatever has happened so far, the tasks can bring all items to their end. -/
theorem exists_run_isIdle {capacity : Nat} (hroom : 0 < capacity) (l : TaskLine α γ) :
    ∃ moves, (l.run capacity moves).IsIdle := by
  induction hn : l.work using Nat.strongRecOn generalizing l with
  | ind n ih =>
      by_cases h : l.IsIdle
      · exact ⟨[], h⟩
      · obtain ⟨m, hm⟩ := exists_move hroom h
        obtain ⟨moves, hmoves⟩ := ih _ (hn ▸ hm) (l.move capacity m) rfl
        exact ⟨m :: moves, hmoves⟩

end TaskLine

end HomeClimate
