import HomeClimate.Document.Yaml.Token

/-!
# Nodes of a YAML text

A *node* is a scalar, a list or a record, maybe with a tag and an anchor, or it is an
alias for an anchored node.  `nodeOf?` makes the one node of a text out of its tokens.
There may be marks of an end after it, but not a second document.

* What may be left out is a plain scalar with no characters.  So is a node of which
  there is a tag or an anchor only.
* A list may stand at the very column of the key it belongs to.  It has no start then,
  and it ends before whatever is no dash.
* In brackets a question mark or a colon makes a record of one field out of an item of a
  list.  Where the key after a question mark is left out in a list, the next token is
  passed over.
* An anchor gets the number of different names before it, in the order in which
  anchors start.  A name stands for its last anchor before the alias.
-/

namespace HomeClimate.Yaml

/-- A part of a text. -/
inductive Node where
  | scalar (style : ScalarStyle) (s : String)
  | list (items : List Node)
  | record (fields : List (Node × Node))
  | alias (anchor : Nat)
  | tagged (tag : Tag) (node : Node)
  | anchored (anchor : Nat) (node : Node)
  deriving Inhabited

/-- A scalar that was left out. -/
def Node.bare : Node := .scalar .plain ""

/-! ## Reading -/

/-- What is left to read, and what is known. -/
structure Reader where
  /-- The tokens that are left. -/
  tokens : List Token
  /-- The meaning of handles. -/
  handles : Handles
  /-- The names of anchors with their numbers. -/
  anchors : List (String × Nat)

namespace Reader

/-- The reader after one token. -/
def next (r : Reader) : Reader := { r with tokens := r.tokens.drop 1 }

/-- The reader with an anchor, and the number of the anchor. -/
def define (r : Reader) (name : String) : Reader × Nat :=
  let number := r.anchors.length
  let others := r.anchors.filter fun e => e.1 ≠ name
  ({ r with anchors := (name, number) :: others }, number)

/-- The tag and the anchor in front of a node, and the reader after them. -/
def properties (r : Reader) : Option WrittenTag × Option String × Reader :=
  match r.tokens with
  | .anchor name :: .tag t :: _ => (some t, some name, r.next.next)
  | .tag t :: .anchor name :: _ => (some t, some name, r.next.next)
  | .anchor name :: _ => (none, some name, r.next)
  | .tag t :: _ => (some t, none, r.next)
  | _ => (none, none, r)

end Reader

/-- A node with its tag.  The tag `!` of a scalar says nothing, unless the scalar was left out. -/
def Node.withTag (tag : Option Tag) (isBare : Bool) (n : Node) : Node :=
  match tag, n with
  | none, _ => n
  | some t, .scalar .. => if t = .ofText "!" ∧ !isBare then n else .tagged t n
  | some t, _ => .tagged t n

/-- A node with its anchor. -/
def Node.withAnchor (anchor : Option Nat) (n : Node) : Node :=
  match anchor with
  | some a => .anchored a n
  | none => n

/-- Whether a token comes after an item of a block that was left out. -/
def Token.endsItem : Token → Bool
  | .item => true
  | .blockEnd => true
  | _ => false

/-- Whether a token comes after a key or a value of a block that was left out. -/
def Token.endsField : Token → Bool
  | .key => true
  | .value => true
  | .blockEnd => true
  | _ => false

/-- What a list or a record in brackets is closed by. -/
def isClosing (inList : Bool) : Token → Bool
  | .listEnd => inList
  | .recordEnd => !inList
  | _ => false

/-- Whether a token ends a value in the brackets of a list or of a record. -/
def endsValue (inList : Bool) (t : Token) : Bool :=
  match t with
  | .comma => true
  | t => isClosing inList t

/-- Whether a token ends a key in the brackets of a list or of a record. -/
def endsKey (inList : Bool) (t : Token) : Bool :=
  match t with
  | .value => true
  | t => endsValue inList t

mutual

/-- A node.  Blocks are looked for with `inBlock` only, and a list that starts with a dash with
`level` only. -/
def node? : (fuel : Nat) → (inBlock level : Bool) → Reader → Option (Node × Reader)
  | 0, _, _, _ => none
  | fuel + 1, inBlock, level, r =>
    match r.tokens with
    | .alias name :: _ => do
      let anchor ← r.anchors.lookup name
      some (.alias anchor, r.next)
    | _ => do
      let (written, name, r) := r.properties
      let tag ← match written with
        | some t => (t.resolve? r.handles).map some
        | none => some none
      let (r, anchor) := match name with
        | some name => (r.define name).map id some
        | none => (r, none)
      let (node, isBare, r) ← content? fuel inBlock level (tag.isSome || anchor.isSome) r
      some ((node.withTag tag isBare).withAnchor anchor, r)

/-- What a node holds, and whether that was left out, which may be so with `mayBeBare` only. -/
def content? : (fuel : Nat) → (inBlock level mayBeBare : Bool) → Reader →
    Option (Node × Bool × Reader)
  | 0, _, _, _, _ => none
  | fuel + 1, inBlock, level, mayBeBare, r =>
    match r.tokens with
    | .scalar style s :: _ => some (.scalar style s, false, r.next)
    | .listStart :: _ => do
      let (items, r) ← bracketItems? fuel true r.next
      some (.list items, false, r)
    | .recordStart :: _ => do
      let (fields, r) ← bracketFields? fuel true r.next
      some (.record fields, false, r)
    | t :: _ =>
      match t, inBlock, level with
      | .item, _, true => do
        let (items, r) ← levelItems? fuel r
        some (.list items, false, r)
      | .blockListStart, true, _ => do
        let (items, r) ← blockItems? fuel r.next
        some (.list items, false, r)
      | .blockRecordStart, true, _ => do
        let (fields, r) ← blockFields? fuel r.next
        some (.record fields, false, r)
      | _, _, _ => if mayBeBare then some (.bare, true, r) else none
    | [] => if mayBeBare then some (.bare, true, r) else none

/-- A node, or one that was left out before a token of some kind. -/
def nodeUnless? : (fuel : Nat) → (ends : Token → Bool) → (inBlock level : Bool) → Reader →
    Option (Node × Reader)
  | 0, _, _, _, _ => none
  | fuel + 1, ends, inBlock, level, r =>
    if r.tokens.head?.any ends then some (.bare, r) else node? fuel inBlock level r

/-- The items of a block and its end. -/
def blockItems? : (fuel : Nat) → Reader → Option (List Node × Reader)
  | 0, _ => none
  | fuel + 1, r =>
    match r.tokens with
    | .item :: _ => do
      let (item, r) ← nodeUnless? fuel Token.endsItem true false r.next
      let (items, r) ← blockItems? fuel r
      some (item :: items, r)
    | .blockEnd :: _ => some ([], r.next)
    | _ => none

/-- The items of a list at the column of its key. -/
def levelItems? : (fuel : Nat) → Reader → Option (List Node × Reader)
  | 0, _ => none
  | fuel + 1, r =>
    match r.tokens with
    | .item :: _ => do
      let ends := fun t => t.endsItem || t.endsField
      let (item, r) ← nodeUnless? fuel ends true false r.next
      let (items, r) ← levelItems? fuel r
      some (item :: items, r)
    | _ => some ([], r)

/-- The fields of a block and its end. -/
def blockFields? : (fuel : Nat) → Reader → Option (List (Node × Node) × Reader)
  | 0, _ => none
  | fuel + 1, r =>
    match r.tokens with
    | .key :: _ => do
      let (key, r) ← nodeUnless? fuel Token.endsField true true r.next
      let (value, r) ←
        match r.tokens with
        | .value :: _ => nodeUnless? fuel Token.endsField true true r.next
        | _ => some (.bare, r)
      let (fields, r) ← blockFields? fuel r
      some ((key, value) :: fields, r)
    | .blockEnd :: _ => some ([], r.next)
    | _ => none

/-- The items of a list in brackets and its closing bracket, with a comma before each but the
first. -/
def bracketItems? : (fuel : Nat) → (first : Bool) → Reader → Option (List Node × Reader)
  | 0, _, _ => none
  | fuel + 1, first, r =>
    match r.tokens with
    | .listEnd :: _ => some ([], r.next)
    | t :: _ => do
      let r ← match t, first with
        | _, true => some r
        | .comma, false => some r.next
        | _, false => none
      match r.tokens with
      | .listEnd :: _ => some ([], r.next)
      | .key :: _ => do
        let (key, r) ←
          if r.next.tokens.head?.any (endsKey true) then some (.bare, r.next.next)
          else node? fuel false false r.next
        let (value, r) ← bracketValue? fuel true r
        let (items, r) ← bracketItems? fuel false r
        some (.record [(key, value)] :: items, r)
      | _ => do
        let (item, r) ← node? fuel false false r
        let (items, r) ← bracketItems? fuel false r
        some (item :: items, r)
    | [] => none

/-- The value of a field in brackets, which may be left out with its colon. -/
def bracketValue? : (fuel : Nat) → (inList : Bool) → Reader → Option (Node × Reader)
  | 0, _, _ => none
  | fuel + 1, inList, r =>
    match r.tokens with
    | .value :: _ => nodeUnless? fuel (endsValue inList) false false r.next
    | _ => some (.bare, r)

/-- The fields of a record in brackets and its closing bracket, with a comma before each but the
first.  A node that is no key is one without a value. -/
def bracketFields? : (fuel : Nat) → (first : Bool) → Reader →
    Option (List (Node × Node) × Reader)
  | 0, _, _ => none
  | fuel + 1, first, r =>
    match r.tokens with
    | .recordEnd :: _ => some ([], r.next)
    | t :: _ => do
      let r ← match t, first with
        | _, true => some r
        | .comma, false => some r.next
        | _, false => none
      match r.tokens with
      | .recordEnd :: _ => some ([], r.next)
      | .key :: _ => do
        let (key, r) ← nodeUnless? fuel (endsKey false) false false r.next
        let (value, r) ← bracketValue? fuel false r
        let (fields, r) ← bracketFields? fuel false r
        some ((key, value) :: fields, r)
      | _ => do
        let (key, r) ← node? fuel false false r
        let (fields, r) ← bracketFields? fuel false r
        some ((key, .bare) :: fields, r)
    | [] => none

end

/-! ## Documents -/

/-- The meaning of handles in the directives in front of a document, and the reader after them.  A
directive may not be repeated, and the version is 1.1 or 1.2. -/
def directives? : (versioned : Bool) → Handles → List Token → Option (Handles × List Token)
  | versioned, handles, .version major minor :: ts =>
    if versioned || major ≠ 1 || (minor ≠ 1 && minor ≠ 2) then none
    else directives? true handles ts
  | versioned, handles, .handle name octets :: ts =>
    if (handles.lookup name).isSome then none
    else directives? versioned (handles ++ [(name, octets)]) ts
  | _, handles, ts => some (handles, ts)

/-- Whether a document starts with a mark, or with directives before it. -/
def isMarked : List Token → Bool
  | .version .. :: _ => true
  | .handle .. :: _ => true
  | .documentStart :: _ => true
  | _ => false

/-- Whether a document with a mark has nothing after it. -/
def isEmptyDocument : List Token → Bool
  | [] => true
  | .documentEnd :: _ => true
  | ts => isMarked ts

/-- A marked document after its directives. -/
def markedDocument? (fuel : Nat) (handles : Handles) : List Token → Option (Node × Reader)
  | .documentStart :: ts =>
    let r : Reader := ⟨ts, handles, []⟩
    if isEmptyDocument ts then some (.bare, r) else node? fuel true false r
  | _ => none

/-- Whether nothing is left but marks of an end. -/
def isOver : List Token → Bool
  | [] => true
  | .documentEnd :: ts => isOver ts
  | _ => false

/-- The node of a text with these tokens, at least one. -/
def nodeOf? (tokens : List Token) : Option Node := do
  let fuel := 4 * tokens.length + 4
  let (node, r) ←
    if isMarked tokens then do
      let (handles, ts) ← directives? false [] tokens
      markedDocument? fuel handles ts
    else node? fuel true false ⟨tokens, [], []⟩
  if isOver r.tokens then some node else none

end HomeClimate.Yaml
