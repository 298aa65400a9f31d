import HomeClimate.Document.Scalar
import HomeClimate.Number.Layout
import HomeClimate.Number.Scalar

/-!
# Documents

A *document* is what a JSON or a YAML text holds: values, lists, and records with
named fields.  The two formats differ in when a value gets its type.  In JSON the
text says what a value is.  In YAML a scalar without quotes is `plain` and gets
its type from what is asked of it, so `5` is a number where a number is wanted
and a text where a text is.  A tag in front of it changes little.

* A plain scalar with a tag is read as one without.  Only where a value may be
  absent the tag of no value asks for one of the words of no value, and any other
  tag for a value.
* A literal block is a value of the type that its tag names, and a text.
* A local tag names a choice, and the scalar after it has to be no value.

A reader of a value asks through `asBool?`, `asText?`, `asInteger?`, `asDouble?`
and `asOptional`.  A record is read through `Fields`.

* A field that is repeated is an error, a field that is not known is passed over
  unless the record is strict.
* A list of JSON is accepted for a record, its items being the fields in order.
  Then a field that is missing must have a default.

What cannot be read as anything may still stand where nothing looks at it.  It is
`unreadable`.
-/

namespace HomeClimate

/-- A number as JSON has it. -/
inductive NumberToken where
  /-- A whole number that fits 64 bits, signed or not. -/
  | integer (n : Int)
  /-- Any other number. -/
  | real (d : Decimal)
  deriving Repr, DecidableEq, Inhabited

/-- The content of a text in a data format. -/
inductive Document where
  | null
  | bool (b : Bool)
  | number (n : NumberToken)
  /-- A text between quotes. -/
  | text (s : String)
  /-- A scalar without quotes, of no type yet. -/
  | plain (s : String)
  /-- A scalar with a tag. -/
  | tagged (tag : Tag) (style : ScalarStyle) (s : String)
  /-- A list, which may stand for a record. -/
  | list (items : List Document)
  /-- A list that is nothing but a list. -/
  | sequence (items : List Document)
  | record (fields : List (String × Document))
  /-- Something that is no value at all, such as a text with half a character. -/
  | unreadable
  deriving Inhabited

namespace NumberToken

/-- The longest leading part of a coefficient that fits 64 bits, and the digits cut off. -/
def cutTo64 : (fuel : Nat) → Nat → Nat → Nat × Nat
  | 0, n, cut => (n, cut)
  | fuel + 1, n, cut => if n < twoTo 64 then (n, cut) else cutTo64 fuel (n / 10) (cut + 1)

/--
A double scaled by a power of ten: one multiplication or division by a power up
to `10 ^ 308`, or several when the power is smaller still.  None if it gets too large.
-/
def scale? : (fuel : Nat) → Float → Int → Option Float
  | 0, x, _ => some x
  | fuel + 1, x, e =>
    if e.natAbs ≤ 308 then
      let power := doubleOfDecimal ⟨false, 1, e.natAbs⟩
      if 0 ≤ e then if (x * power).isFinite then some (x * power) else none
      else some (x / power)
    else if x == 0.0 then some x
    else if 0 ≤ e then none
    else scale? fuel (x / doubleOfDecimal ⟨false, 1, 308⟩) (e + 308)

/-- The double of a number in a document.  Digits beyond 64 bits are not used. -/
def toDouble? : NumberToken → Option Float
  | .integer n => some (Float.ofInt n)
  | .real d =>
    let (n, cut) := cutTo64 (Decimal.digitCount d.coefficient) d.coefficient 0
    (scale? 4 (Float.ofInt n) (d.exponent + cut)).map fun x => if d.negative then -x else x

/-- The number of a double.  A whole number is not an integer here, and what is not finite has
none. -/
def ofDouble? (x : Float) : Option NumberToken :=
  match DoubleParts.ofFloat x with
  | .finite b =>
    let d := Digits.shortest .even b
    some (.real ⟨b.negative, d.digits, d.exponent⟩)
  | _ => none

/-- A number written in a layout. -/
def write (l : NumberLayout) : NumberToken → String
  | .integer n => toString n
  | .real d =>
    let body := l.writeDigits ⟨d.coefficient, d.exponent⟩
    String.ofList (if d.negative then '-' :: body else body)

end NumberToken

namespace Document

/-! ## Values -/

/-- The text of a scalar that takes the type asked of it: a plain one, or a literal block that has
the tag of the type. -/
def untyped? (tag : Tag) : Document → Option String
  | .plain s => some s
  | .tagged t style s => if style = .plain ∨ (style = .literal ∧ t = tag) then some s else none
  | _ => none

/-- A truth value. -/
def asBool? : Document → Option Bool
  | .bool b => some b
  | d => (d.untyped? .bool).bind PlainScalar.bool?

/-- A text. -/
def asText? : Document → Option String
  | .text s => some s
  | .plain s => some s
  | .tagged _ _ s => some s
  | _ => none

/-- A whole number between two bounds. -/
def within? (low high n : Int) : Option Int := if low ≤ n ∧ n ≤ high then some n else none

/-- A whole number of 32 bits. -/
def asInteger32? (d : Document) : Option Int :=
  let n := match d with
    | .number (.integer n) => some n
    | d => (d.untyped? .integer).bind PlainScalar.integer?
  n.bind (within? (leastSigned 32) (greatestSigned 32))

/-- A natural number of so many bits. -/
def asNatural? (bits : Nat) (d : Document) : Option Nat :=
  let n := match d with
    | .number (.integer n) => some n
    | d => ((d.untyped? .integer).bind PlainScalar.natural?).map Int.ofNat
  (n.bind (within? 0 (greatestNatural bits))).map Int.toNat

/-- The double of a word for a number, if it is not too large. -/
def doubleOf? : NumberWord → Option Float
  | .finite d =>
    let x := doubleOfDecimal d
    if x.isFinite then some x else none
  | w => some (doubleOfWord w)

/-- A double.  In YAML it may also be one of the words for infinity and no number. -/
def asDouble? : Document → Option Float
  | .number n => n.toDouble?
  | d => ((d.untyped? .number).bind PlainScalar.number?).bind doubleOf?

/-- A value that may be absent. -/
def asOptional {α : Type} (read : Document → Option α) (d : Document) : Option (Option α) :=
  match d with
  | .null => some none
  | .plain s => if s.isEmpty || PlainScalar.isNull s then some none else (read d).map some
  | .tagged tag .plain s =>
    if tag = .null then if PlainScalar.isNull s then some none else none
    else (read d).map some
  | d => (read d).map some

/-- Whether there is nothing at all where a list or a record could be. -/
def isBare : Document → Bool
  | .plain s => s.isEmpty
  | .tagged _ .plain s => s.isEmpty
  | _ => false

/-- A list, each item read.  In YAML nothing at all is an empty list. -/
def asList? {α : Type} (read : Document → Option α) : Document → Option (List α)
  | .list items => items.mapM read
  | .sequence items => items.mapM read
  | d => if d.isBare then some [] else none

/-- The name of a choice: a text, a local tag before no value, or a record of that name alone with
no value. -/
def asChoice? : Document → Option String
  | .text s => some s
  | .plain s => some s
  | .tagged tag style s =>
    match tag.localName? with
    | some name => if style = .plain ∧ (s.isEmpty ∨ PlainScalar.isNull s) then some name else none
    | none => some s
  | .record [(name, .null)] => some name
  | _ => none

/-! ## Records -/

/-- The known fields of a record, as far as they are given.  In YAML nothing at all is an empty
record. -/
structure Fields where
  /-- The given fields. -/
  entries : List (String × Document)
  /-- Whether they were given as a list, in order. -/
  positional : Bool

/-- Whether a name occurs twice. -/
def hasRepeated : List String → Bool
  | [] => false
  | name :: rest => rest.contains name || hasRepeated rest

/-- The fields with the given names.  A strict record has no others. -/
def fields? (names : List String) (strict : Bool) : Document → Option Fields
  | .record entries =>
    let known := entries.filter fun e => names.contains e.1
    if hasRepeated (known.map Prod.fst) then none
    else if strict && known.length ≠ entries.length then none
    else some ⟨known, false⟩
  | .list items => if names.length < items.length then none else some ⟨names.zip items, true⟩
  | d => if d.isBare then some ⟨[], false⟩ else none

namespace Fields

/-- A field by name. -/
def find? (f : Fields) (name : String) : Option Document :=
  (f.entries.find? fun e => e.1 == name).map Prod.snd

/-- A field that must be given. -/
def required? {α : Type} (f : Fields) (name : String) (read : Document → Option α) : Option α :=
  (f.find? name).bind read

/-- A field with a default. -/
def defaulted? {α : Type} (f : Fields) (name : String) (fallback : α) (read : Document → Option α) :
    Option α :=
  match f.find? name with
  | none => some fallback
  | some d => read d

/-- A field whose value may be absent, and which may be left out. -/
def optional? {α : Type} (f : Fields) (name : String) (read : Document → Option α) :
    Option (Option α) :=
  f.defaulted? name none (asOptional read)

/-- A field whose value may be absent, and which a list may not leave out. -/
def nullable? {α : Type} (f : Fields) (name : String) (read : Document → Option α) :
    Option (Option α) :=
  if f.positional && (f.find? name).isNone then none else f.optional? name read

end Fields

/-- The document of a double: its number, or a word if it is not finite. -/
def ofDouble (x : Float) : Document :=
  match NumberToken.ofDouble? x with
  | some n => .number n
  | none => .plain (NumberLayout.yaml.write x)

/-- The document of a natural number. -/
def ofNatural (n : Nat) : Document := .number (.integer n)

/-- A record without the fields that have no value. -/
def ofFields (fields : List (String × Option Document)) : Document :=
  .record (fields.filterMap fun f => f.2.map fun d => (f.1, d))

end Document

end HomeClimate
