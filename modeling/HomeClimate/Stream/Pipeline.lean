/-!
# Pipelines

A *pipeline* is a row of stages with a queue before each of them.  A stage takes
the first item of its queue and gives at most one to the next queue.  The stages
do not wait for each other: `advance` lets one of them take one item, and any
order of such steps is a run of the pipeline.  What leaves the last stage is the
output.

`settle` lets the stages take everything, the first stage first.  `passAll` has no
queues: it hands each item through all stages before the next one.

A stage is a state.  What it does is a parameter, so the states of a row may be of
any kinds that share a type.
-/

namespace HomeClimate

/-- What a stage does with an item: its next state, and what it gives to the next stage. -/
abbrev StageStep (σ α : Type) := σ → α → σ × Option α

/-- A stage with the items that wait for it. -/
structure Link (σ α : Type) where
  /-- The state of the stage. -/
  state : σ
  /-- The items that wait, the oldest first. -/
  waiting : List α

/-- Stages in a row. -/
structure Pipeline (σ α : Type) where
  /-- The stages, the first one first. -/
  links : List (Link σ α)
  /-- What left the last stage, the oldest first. -/
  output : List α

namespace Pipeline

variable {σ α : Type}

/-- Stages with nothing in their queues. -/
def ofStages (stages : List σ) : Pipeline σ α := ⟨stages.map fun s => ⟨s, []⟩, []⟩

/-- The states of the stages. -/
def states (p : Pipeline σ α) : List σ := p.links.map Link.state

/-- The pipeline with items that come in after those that wait. -/
def push (p : Pipeline σ α) (items : List α) : Pipeline σ α :=
  match p.links with
  | [] => { p with output := p.output ++ items }
  | l :: rest => { p with links := { l with waiting := l.waiting ++ items } :: rest }

/-- A stage in front of a pipeline. -/
def cons (l : Link σ α) (p : Pipeline σ α) : Pipeline σ α := { p with links := l :: p.links }

/-- Lets the stage of a number take one item, if there are such a stage and such an item. -/
def advance (step : StageStep σ α) (p : Pipeline σ α) : Nat → Pipeline σ α
  | 0 =>
    match p.links with
    | ⟨s, a :: waiting⟩ :: rest =>
      let (s, emitted) := step s a
      cons ⟨s, waiting⟩ (push ⟨rest, p.output⟩ emitted.toList)
    | _ => p
  | n + 1 =>
    match p.links with
    | l :: rest => cons l (advance step ⟨rest, p.output⟩ n)
    | [] => p

/-- A stage after some items, and what it gave for them. -/
def feedStage (step : StageStep σ α) (s : σ) : List α → σ × List α
  | [] => (s, [])
  | a :: rest =>
    let (s, emitted) := step s a
    let (s, more) := feedStage step s rest
    (s, emitted.toList ++ more)

/-- Stages that took all that waits and some items more, and what left the last of them. -/
def drain (step : StageStep σ α) : List (Link σ α) → List α → List (Link σ α) × List α
  | [], items => ([], items)
  | l :: rest, items =>
    let (s, emitted) := feedStage step l.state (l.waiting ++ items)
    let (rest, out) := drain step rest emitted
    (⟨s, []⟩ :: rest, out)

/-- The pipeline when every queue is empty. -/
def settle (step : StageStep σ α) (p : Pipeline σ α) : Pipeline σ α :=
  let (links, out) := drain step p.links []
  ⟨links, p.output ++ out⟩

/-- The pipeline with its output taken away, and the output. -/
def takeOutput (p : Pipeline σ α) : Pipeline σ α × List α := ({ p with output := [] }, p.output)

/-- The pipeline without its last stage and what waits for that. -/
def dropLast (p : Pipeline σ α) : Pipeline σ α := { p with links := p.links.dropLast }

/-! ## Without queues -/

/-- One item handed through all stages, and what leaves the last one. -/
def pass (step : StageStep σ α) : List σ → α → List σ × Option α
  | [], a => ([], some a)
  | s :: rest, a =>
    match step s a with
    | (s, none) => (s :: rest, none)
    | (s, some b) =>
      let (rest, out) := pass step rest b
      (s :: rest, out)

/-- Items handed through all stages, each before the next one. -/
def passAll (step : StageStep σ α) : List σ → List α → List σ × List α
  | stages, [] => (stages, [])
  | stages, a :: items =>
    let (stages, out) := pass step stages a
    let (stages, more) := passAll step stages items
    (stages, out.toList ++ more)

end Pipeline

/-- Several queues joined into one.  The items of one queue keep their order. -/
def joinQueues {α : Type} (queues : List (List α)) : List α := queues.flatten

end HomeClimate
