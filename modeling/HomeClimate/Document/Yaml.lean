import HomeClimate.Document.Basic
import HomeClimate.Document.Yaml.Node

/-!
# Reading YAML

`Yaml.read?` reads a text with one document, or with none, which is a record with no
fields.

The name of a field is any scalar, or an alias for one.  A record with another key
cannot be read as anything.

An alias is the node of its anchor.  That may be one around the alias; then the node
within itself has no end, and it is unreadable where it is more than `nestingLimit`
aliases deep.
-/

namespace HomeClimate.Yaml

/-! ## Documents of nodes -/

/-- The document of a scalar without a tag. -/
def ofScalar (style : ScalarStyle) (s : String) : Document :=
  if style = .plain then .plain s else .text s

/-- The document of the fields of a record, where each has a name. -/
def recordOf (fields : List (Option String × Document)) : Document :=
  match fields.mapM fun f => f.1.map fun name => (name, f.2) with
  | some fields => .record fields
  | none => .unreadable

mutual

/-- The document of a node, with the documents of anchored nodes. -/
def ofNode (anchored : Array Document) : Node → Document
  | .scalar style s => ofScalar style s
  | .list items => .sequence (ofNodes anchored items)
  | .record fields => recordOf (ofFields anchored fields)
  | .alias anchor => anchored.getD anchor .unreadable
  | .tagged tag (.scalar style s) => .tagged tag style s
  | .tagged _ node => ofNode anchored node
  | .anchored _ node => ofNode anchored node

/-- The documents of some nodes. -/
def ofNodes (anchored : Array Document) : List Node → List Document
  | [] => []
  | n :: ns => ofNode anchored n :: ofNodes anchored ns

/-- The documents of the fields of a record, each with the name that its key makes. -/
def ofFields (anchored : Array Document) :
    List (Node × Node) → List (Option String × Document)
  | [] => []
  | (key, value) :: fields =>
    ((ofNode anchored key).asText?, ofNode anchored value) :: ofFields anchored fields

end

/-! ## Anchors -/

mutual

/-- The anchored nodes in a node, in the order in which they start. -/
def Node.anchors : Node → List (Nat × Node)
  | .scalar .. => []
  | .alias _ => []
  | .list items => nodesAnchors items
  | .record fields => fieldsAnchors fields
  | .tagged _ node => node.anchors
  | .anchored anchor node => (anchor, node) :: node.anchors

/-- The anchored nodes in some nodes. -/
def nodesAnchors : List Node → List (Nat × Node)
  | [] => []
  | n :: ns => n.anchors ++ nodesAnchors ns

/-- The anchored nodes in the fields of a record. -/
def fieldsAnchors : List (Node × Node) → List (Nat × Node)
  | [] => []
  | (key, value) :: fields => key.anchors ++ value.anchors ++ fieldsAnchors fields

end

/-- The nodes of anchors by number.  Of two anchors with one number the last counts. -/
def anchorTable (anchors : List (Nat × Node)) : Array Node :=
  anchors.foldl (fun table e => table.setIfInBounds e.1 e.2)
    (Array.replicate anchors.length Node.bare)

/-- The documents of anchored nodes, with aliases so many deep. -/
def unfold (table : Array Node) : (levels : Nat) → Array Document
  | 0 => table.map fun _ => .unreadable
  | levels + 1 =>
    let inner := unfold table levels
    table.map (ofNode inner)

/-- How many aliases deep a document may be. -/
def nestingLimit : Nat := 128

/-! ## Texts -/

/-- The document of a whole text. -/
def read? (s : String) : Option Document := do
  let cs := s.toList
  if !cs.all isAllowed then none
  else
    match ← tokens? cs with
    | [] => some (.record [])
    | tokens => do
      let node ← nodeOf? tokens
      some (ofNode (unfold (anchorTable node.anchors) nestingLimit) node)

end HomeClimate.Yaml
