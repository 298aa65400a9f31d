import HomeClimate.Document.Basic
import HomeClimate.Text.Quoted

/-!
# JSON

`Json.read?` reads a whole text.  It is strict: one value, with blanks around it
and nothing else.

* A number has no leading zeros and no leading plus, and digits on both sides of
  its point.  It is an integer if it has neither a point nor an exponent and fits
  64 bits; minus zero is not an integer.
* A text has no control characters.  One in which escapes by number do not pair up
  is unreadable, and so is a record with such a name.
* A record keeps its fields in order, repeated ones too.

`Json.compact` and `Json.pretty` write.  The pretty form has one field or item on
a line, two blanks for each level, and nothing between empty brackets.
-/

namespace HomeClimate.Json

/-! ## Reading -/

/-- The blanks between the parts of a text. -/
def isSpace (c : Char) : Bool := c = ' ' || c = '\n' || c = '\t' || c = '\r'

/-- A text without the blanks at its front. -/
def skip (cs : List Char) : List Char := cs.dropWhile isSpace

/-- Four hexadecimal digits. -/
def hex4? : List Char → Option (Nat × List Char)
  | a :: b :: c :: d :: rest => do
    let a ← Text.hexValue? a
    let b ← Text.hexValue? b
    let c ← Text.hexValue? c
    let d ← Text.hexValue? d
    some (((a * 16 + b) * 16 + c) * 16 + d, rest)
  | _ => none

/-- The character of a simple escape. -/
def escaped? (c : Char) : Option Char :=
  match c with
  | '"' => some '"'
  | '\\' => some '\\'
  | '/' => some '/'
  | 'b' => some '\x08'
  | 'f' => some '\x0c'
  | 'n' => some '\n'
  | 'r' => some '\r'
  | 't' => some '\t'
  | _ => none

/-- The low half of a pair after its high half. -/
def lowHalf? (cs : List Char) : Option (Nat × List Char) :=
  match cs with
  | '\\' :: 'u' :: rest => do
    let (low, rest) ← hex4? rest
    if 0xDC00 ≤ low ∧ low < 0xE000 then some (low, rest) else none
  | _ => none

/-- An escape by number: one unit, or two that pair up.  One that has no pair makes no character. -/
def unicode? (cs : List Char) : Option (Option Char × List Char) := do
  let (unit, rest) ← hex4? cs
  if unit < 0xD800 ∨ 0xE000 ≤ unit then some (some (Char.ofNat unit), rest)
  else if unit < 0xDC00 then
    match lowHalf? rest with
    | some (low, rest) =>
      some (some (Char.ofNat (0x10000 + (unit - 0xD800) * 0x400 + (low - 0xDC00))), rest)
    | none => some (none, rest)
  else some (none, rest)

/-- The rest of a text after its opening quote, up to the closing one.  It has no characters if one
of its escapes makes none. -/
def textBody? : (fuel : Nat) → List Char → Option (Option (List Char) × List Char)
  | 0, _ => none
  | fuel + 1, cs =>
    match cs with
    | [] => none
    | '"' :: rest => some (some [], rest)
    | '\\' :: 'u' :: rest => do
      let (c, rest) ← unicode? rest
      let (body, rest) ← textBody? fuel rest
      some (c.bind fun c => body.map (c :: ·), rest)
    | '\\' :: c :: rest => do
      let c ← escaped? c
      let (body, rest) ← textBody? fuel rest
      some (body.map (c :: ·), rest)
    | c :: rest =>
      if c = '\\' ∨ c.toNat < 32 then none
      else do
        let (body, rest) ← textBody? fuel rest
        some (body.map (c :: ·), rest)

/-- The document of the characters of a text. -/
def textOf : Option (List Char) → Document
  | some body => .text (String.ofList body)
  | none => .unreadable

/-- The document of the fields of a record. -/
def recordOf (fields : List (Option (List Char) × Document)) : Document :=
  match fields.mapM fun f => f.1.map fun name => (String.ofList name, f.2) with
  | some fields => .record fields
  | none => .unreadable

/-- The digits before the point: a zero alone, or digits that start with no zero. -/
def wholeDigits? (cs : List Char) : Option (List Char × List Char) :=
  let (digits, rest) := Decimal.spanDigits cs
  match digits with
  | [] => none
  | ['0'] => some (['0'], rest)
  | '0' :: _ => none
  | digits => some (digits, rest)

/-- A point and digits, if there is a point. -/
def fraction? : List Char → Option (List Char × List Char)
  | '.' :: cs =>
    let (digits, rest) := Decimal.spanDigits cs
    if digits.isEmpty then none else some (digits, rest)
  | cs => some ([], cs)

/-- An exponent, if there is an exponent mark. -/
def exponent? : List Char → Option (Option Int × List Char)
  | c :: cs =>
    if c = 'e' ∨ c = 'E' then
      let (negative, cs) := Decimal.spanSign cs
      let (digits, rest) := Decimal.spanDigits cs
      if digits.isEmpty then none
      else
        let n : Int := Decimal.digitsValue 0 digits
        some (some (if negative then -n else n), rest)
    else some (none, c :: cs)
  | [] => some (none, [])

/-- Whether a whole number fits 64 bits, signed if it is negative. -/
def fits64 (n : Int) : Bool := leastSigned 64 ≤ n && n ≤ greatestNatural 64

/-- A number after its sign. -/
def number? (negative : Bool) (cs : List Char) : Option (NumberToken × List Char) := do
  let (whole, rest) ← wholeDigits? cs
  let pointed := rest.head? = some '.'
  let (fraction, rest) ← fraction? rest
  let (exponent, rest) ← exponent? rest
  let coefficient := Decimal.digitsValue 0 (whole ++ fraction)
  let integer : Int := if negative then -(coefficient : Int) else coefficient
  let real : NumberToken :=
    .real ⟨negative, coefficient, exponent.getD 0 - fraction.length⟩
  if ¬ pointed ∧ exponent.isNone ∧ fits64 integer ∧ ¬ (negative ∧ coefficient = 0) then
    some (.integer integer, rest)
  else some (real, rest)

/-- A word at the front of a text. -/
def word? (word : String) (cs : List Char) : Option (List Char) :=
  let w := word.toList
  if w.isPrefixOf cs then some (cs.drop w.length) else none

mutual

/-- One value at the front of a text. -/
def value? : (fuel : Nat) → List Char → Option (Document × List Char)
  | 0, _ => none
  | fuel + 1, cs =>
    match skip cs with
    | [] => none
    | '"' :: rest => do
      let (body, rest) ← textBody? (rest.length + 1) rest
      some (textOf body, rest)
    | '[' :: rest => do
      match skip rest with
      | ']' :: rest => some (.list [], rest)
      | rest => do
        let (items, rest) ← items? fuel rest
        some (.list items, rest)
    | '\x7b' :: rest => do
      match skip rest with
      | '\x7d' :: rest => some (.record [], rest)
      | rest => do
        let (fields, rest) ← fields? fuel rest
        some (recordOf fields, rest)
    | '-' :: rest => do
      let (n, rest) ← number? true rest
      some (.number n, rest)
    | 'n' :: rest => (word? "ull" rest).map fun rest => (.null, rest)
    | 't' :: rest => (word? "rue" rest).map fun rest => (.bool true, rest)
    | 'f' :: rest => (word? "alse" rest).map fun rest => (.bool false, rest)
    | rest => do
      let (n, rest) ← number? false rest
      some (.number n, rest)

/-- The items of a list, at least one, and its closing bracket. -/
def items? : (fuel : Nat) → List Char → Option (List Document × List Char)
  | 0, _ => none
  | fuel + 1, cs => do
    let (item, rest) ← value? fuel cs
    match skip rest with
    | ',' :: rest => do
      let (items, rest) ← items? fuel rest
      some (item :: items, rest)
    | ']' :: rest => some ([item], rest)
    | _ => none

/-- The fields of a record, at least one, and its closing bracket. -/
def fields? : (fuel : Nat) → List Char →
    Option (List (Option (List Char) × Document) × List Char)
  | 0, _ => none
  | fuel + 1, cs =>
    match skip cs with
    | '"' :: rest => do
      let (name, rest) ← textBody? (rest.length + 1) rest
      match skip rest with
      | ':' :: rest => do
        let (value, rest) ← value? fuel rest
        let field := (name, value)
        match skip rest with
        | ',' :: rest => do
          let (fields, rest) ← fields? fuel rest
          some (field :: fields, rest)
        | '\x7d' :: rest => some ([field], rest)
        | _ => none
      | _ => none
    | _ => none

end

/-- The document of a whole text. -/
def read? (s : String) : Option Document := do
  let cs := s.toList
  let (d, rest) ← value? (2 * cs.length + 2) cs
  if (skip rest).isEmpty then some d else none

/-! ## Writing -/

/-- One character of a text. -/
def escape (c : Char) : List Char :=
  if c = '"' then ['\\', '"']
  else if c = '\\' then ['\\', '\\']
  else if c = '\n' then ['\\', 'n']
  else if c = '\r' then ['\\', 'r']
  else if c = '\t' then ['\\', 't']
  else if c.toNat = 8 then ['\\', 'b']
  else if c.toNat = 12 then ['\\', 'f']
  else if c.toNat < 32 then
    ['\\', 'u', '0', '0'] ++ Nat.toDigits 16 (c.toNat / 16) ++ Nat.toDigits 16 (c.toNat % 16)
  else [c]

/-- A text between quotes. -/
def writeText (s : String) : String :=
  String.ofList ('"' :: s.toList.flatMap escape ++ ['"'])

/-- A plain scalar.  One of the words for infinity and no number has no form here. -/
def writePlain (s : String) : String :=
  match PlainScalar.number? s with
  | some (.infinite _) => "null"
  | some (.notANumber _) => "null"
  | _ => writeText s

mutual

/-- A document on one line. -/
def compact : Document → String
  | .null => "null"
  | .bool b => if b then "true" else "false"
  | .number n => n.write .json
  | .text s => writeText s
  | .plain s => writePlain s
  | .tagged _ style s => if style = .plain then writePlain s else writeText s
  | .list items => "[" ++ ",".intercalate (compactItems items) ++ "]"
  | .sequence items => "[" ++ ",".intercalate (compactItems items) ++ "]"
  | .unreadable => "null"
  | .record fields => "\x7b" ++ ",".intercalate (compactFields fields) ++ "\x7d"

/-- The items of a list, written. -/
def compactItems : List Document → List String
  | [] => []
  | d :: ds => compact d :: compactItems ds

/-- The fields of a record, written. -/
def compactFields : List (String × Document) → List String
  | [] => []
  | (name, d) :: ds => (writeText name ++ ":" ++ compact d) :: compactFields ds

end

/-- A line break and the blanks of a level. -/
def newLine (level : Nat) : String := "\n" ++ String.ofList (List.replicate (2 * level) ' ')

/-- Parts between brackets, each on its line. -/
def block (level : Nat) (opening closing : String) (parts : List String) : String :=
  if parts.isEmpty then opening ++ closing
  else
    opening ++ newLine (level + 1) ++ ("," ++ newLine (level + 1)).intercalate parts ++
      newLine level ++ closing

mutual

/-- A document on many lines. -/
def pretty (level : Nat) : Document → String
  | .null => "null"
  | .bool b => if b then "true" else "false"
  | .number n => n.write .json
  | .text s => writeText s
  | .plain s => writePlain s
  | .tagged _ style s => if style = .plain then writePlain s else writeText s
  | .list items => block level "[" "]" (prettyItems (level + 1) items)
  | .sequence items => block level "[" "]" (prettyItems (level + 1) items)
  | .unreadable => "null"
  | .record fields => block level "\x7b" "\x7d" (prettyFields (level + 1) fields)

/-- The items of a list, written. -/
def prettyItems (level : Nat) : List Document → List String
  | [] => []
  | d :: ds => pretty level d :: prettyItems level ds

/-- The fields of a record, written. -/
def prettyFields (level : Nat) :
    List (String × Document) → List String
  | [] => []
  | (name, d) :: ds =>
    (writeText name ++ ": " ++ pretty level d) :: prettyFields level ds

end

end HomeClimate.Json
