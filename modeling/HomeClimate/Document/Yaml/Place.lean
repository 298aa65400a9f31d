/-!
# Places in a YAML text

A *place* is a point in a text: what is left, and where it is.  Lines end at a line
feed, a carriage return, both together, a next line, a line separator or a
paragraph separator.  The first four are one line feed to a reader of a scalar; the
two separators stand for themselves.

`startsBlank` is the test that ends most things: a blank, a line end or the end of
the text.
-/

namespace HomeClimate.Yaml

/-! ## Characters -/

/-- A space or a tab. -/
def isSpace (c : Char) : Bool := c = ' ' || c = '\t'

/-- A separator of lines or of paragraphs. -/
def isSeparator (c : Char) : Bool := c.toNat = 0x2028 || c.toNat = 0x2029

/-- Whether a character ends a line. -/
def isLineEnd (c : Char) : Bool := c = '\n' || c = '\r' || c.toNat = 0x85 || isSeparator c

/-- Whether a blank, a line end or the end of the text comes next. -/
def startsBlank : List Char → Bool
  | [] => true
  | c :: _ => isSpace c || isLineEnd c

/-- A mark of the order of bytes. -/
def isByteOrderMark (c : Char) : Bool := c.toNat = 0xFEFF

/-- Whether a character may stand in a text at all. -/
def isAllowed (c : Char) : Bool :=
  let n := c.toNat
  n = 9 || n = 10 || n = 13 || (32 ≤ n && n ≤ 126) || n = 0x85 || (0xA0 ≤ n && n ≤ 0xFFFD) ||
    0x10000 ≤ n

/-- A letter, a digit, a line or a dash: what names are made of. -/
def isNameChar (c : Char) : Bool := c.isAlphanum || c = '_' || c = '-'

/-! ## Places -/

/-- A point in a text. -/
structure Place where
  /-- What is left. -/
  rest : List Char
  /-- Characters since the start of the text. -/
  index : Nat
  /-- The number of the line. -/
  line : Nat
  /-- Characters since the start of the line. -/
  column : Nat

namespace Place

/-- The start of a text. -/
def start (cs : List Char) : Place := ⟨cs, 0, 0, 0⟩

/-- The place after one character that does not end the line. -/
def next (p : Place) : Place :=
  match p.rest with
  | [] => p
  | _ :: cs => { p with rest := cs, index := p.index + 1, column := p.column + 1 }

/-- The place after so many characters. -/
def skip (p : Place) : Nat → Place
  | 0 => p
  | n + 1 => p.next.skip n

/-- The place after the characters that satisfy a test. -/
def skipWhile (p : Place) (test : Char → Bool) : Place := p.skip (p.rest.takeWhile test).length

/-- The place after blanks. -/
def skipSpaces (p : Place) : Place := p.skipWhile isSpace

/-- The place at the end of the line. -/
def skipLine (p : Place) : Place := p.skipWhile fun c => !isLineEnd c

/-- The place at the end of the line if a comment comes next. -/
def skipComment (p : Place) : Place := if p.rest.head? = some '#' then p.skipLine else p

/-- The line end at a place, as the character that it stands for, and the place after it. -/
def lineEnd? (p : Place) : Option (Char × Place) :=
  match p.rest with
  | '\r' :: '\n' :: cs => some ('\n', ⟨cs, p.index + 2, p.line + 1, 0⟩)
  | c :: cs =>
    if isLineEnd c then
      some (if isSeparator c then c else '\n', ⟨cs, p.index + 1, p.line + 1, 0⟩)
    else none
  | [] => none

/-- Whether three of a character come next at the start of a line, and then a blank. -/
def atTriple (p : Place) (c : Char) : Bool :=
  p.column = 0 &&
    match p.rest with
    | a :: b :: d :: cs => a = c && b = c && d = c && startsBlank cs
    | _ => false

/-- Whether a mark between documents comes next. -/
def atMarker (p : Place) : Bool := p.atTriple '-' || p.atTriple '.'

end Place

end HomeClimate.Yaml
