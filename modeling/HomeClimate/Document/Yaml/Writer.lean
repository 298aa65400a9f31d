import HomeClimate.Document.Basic
import HomeClimate.Document.Yaml.Scalar

/-!
# Writing YAML

A document is written in blocks.  A list stands at the column of the key it
belongs to, and an empty list or record is a pair of brackets.

A text is written plain where it reads back as the same text.

* One that would read as another type is put between single quotes.
* So is one that is empty, that starts or ends with a blank, that has a separator
  of lines, or in which a character would be taken as a mark.
* One with line feeds is a block scalar, if it has no blank before a line end.
* One with characters that cannot be shown is put between double quotes.

Every part ends its own line.  A block scalar that ends in a line end needs no
other.
-/

namespace HomeClimate.Yaml

/-! ## Styles -/

/-- Whether a character is shown as it is. -/
def isShown (c : Char) : Bool :=
  let n := c.toNat
  n = 10 || (32 ≤ n && n ≤ 126) || (0xA0 ≤ n && n ≤ 0xFFFD && n ≠ 0xFEFF) || 0x10000 ≤ n

/-- Whether a text starts with a character that would be taken as a mark. -/
def startsMarked : List Char → Bool
  | [] => false
  | c :: cs =>
    (bracketMarks ++ "#&*!|>'\"%@".toList ++ [Char.ofNat 96]).contains c ||
      ((c = '?' || c = ':' || c = '-') && startsBlank cs)

/-- Whether a later character would be taken as a mark, after the character before it. -/
def isMarkedAfter (before : Char) : List Char → Bool
  | [] => false
  | c :: cs =>
    (c = ':' && startsBlank cs) || (c = '#' && startsBlank [before]) || isMarkedAfter c cs

/-- Whether a text has two characters in a row that satisfy two tests. -/
def hasPair (first second : Char → Bool) : List Char → Bool
  | a :: b :: cs => (first a && second b) || hasPair first second (b :: cs)
  | _ => false

/-- The ways to write a text. -/
inductive TextStyle where
  | plain
  | single
  | double
  | literal
  deriving DecidableEq, Repr

/-- Whether a text is a whole number of 128 bits. -/
def readsAsInteger (s : String) : Bool :=
  match PlainScalar.integer? s with
  | some n => decide (leastSigned 128 ≤ n) && decide (n ≤ greatestNatural 128)
  | none => false

/-- Whether a plain scalar of this text would be a text. -/
def readsAsText (s : String) : Bool :=
  !s.isEmpty && !PlainScalar.isNull s && (PlainScalar.bool? s).isNone && !readsAsInteger s &&
    !PlainScalar.hasLeadingZero s.toList &&
    ((PlainScalar.number? s).bind Document.doubleOf?).isNone

/-- Whether a text has a mark in it. -/
def hasMarks (cs : List Char) : Bool :=
  startsMarked cs || "---".toList.isPrefixOf cs || "...".toList.isPrefixOf cs ||
    (match cs with | c :: rest => isMarkedAfter c rest | [] => false)

/-- Whether a text starts or ends with a space or a line end. -/
def hasBlankEnds (cs : List Char) : Bool :=
  let blank := fun c => c = ' ' || isLineEnd c
  cs.head?.any blank || cs.getLast?.any blank

/-- How a text is written. -/
def styleOf (s : String) : TextStyle :=
  let cs := s.toList
  let space := fun c => c = ' '
  let hidden := cs.any (fun c => !isShown c) || hasPair space isLineEnd cs
  if cs.contains '\n' then
    if hidden || cs.getLast? = some ' ' then .double else .literal
  else if hidden || hasPair isLineEnd space cs then .double
  else if !readsAsText s || hasMarks cs || hasBlankEnds cs || cs.any isLineEnd then .single
  else .plain

/-! ## Texts -/

/-- A number in base sixteen with capital digits and so many places. -/
def upperHex (places n : Nat) : List Char :=
  let cs := (Nat.toDigits 16 n).map Char.toUpper
  List.replicate (places - cs.length) '0' ++ cs

/-- One character between double quotes. -/
def escapeDouble (c : Char) : List Char :=
  let n := c.toNat
  if isShown c && !isLineEnd c && c ≠ '"' && c ≠ '\\' then [c]
  else
    '\\' :: (
      if n = 0 then ['0']
      else if n = 7 then ['a']
      else if n = 8 then ['b']
      else if n = 9 then ['t']
      else if n = 10 then ['n']
      else if n = 11 then ['v']
      else if n = 12 then ['f']
      else if n = 13 then ['r']
      else if n = 27 then ['e']
      else if n = 34 then ['"']
      else if n = 92 then ['\\']
      else if n = 0x85 then ['N']
      else if n = 0xA0 then ['_']
      else if n = 0x2028 then ['L']
      else if n = 0x2029 then ['P']
      else if n ≤ 0xFF then 'x' :: upperHex 2 n
      else if n ≤ 0xFFFF then 'u' :: upperHex 4 n
      else 'U' :: upperHex 8 n)

/-- A text between double quotes. -/
def writeDouble (s : String) : String :=
  String.ofList ('"' :: s.toList.flatMap escapeDouble ++ ['"'])

/-- So many blanks. -/
def blanks (n : Nat) : List Char := List.replicate n ' '

/-- The characters between single quotes.  After line ends they go on at a column. -/
def singleBody (column : Nat) : (broken : Bool) → List Char → List Char
  | broken, [] => if broken then blanks column else []
  | broken, c :: cs =>
    if isLineEnd c then c :: singleBody column true cs
    else
      (if broken then blanks column else []) ++ (if c = '\'' then [c, c] else [c]) ++
        singleBody column false cs

/-- A text between single quotes. -/
def writeSingle (column : Nat) (s : String) : String :=
  String.ofList ('\'' :: singleBody column false s.toList ++ ['\''])

/-- The lines of a block scalar at a column.  The last one is ended if the text does not end it. -/
def literalBody (column : Nat) : (fresh : Bool) → List Char → List Char
  | fresh, [] => if fresh then [] else ['\n']
  | fresh, c :: cs =>
    if isLineEnd c then c :: literalBody column true cs
    else (if fresh then blanks column else []) ++ c :: literalBody column false cs

/-- The signs of a block scalar: two columns of indentation if its first line does not show them,
and what is done with the line ends after it. -/
def literalSigns (cs : List Char) : String :=
  let digit := if cs.head?.any (fun c => c = ' ' || isLineEnd c) then "2" else ""
  let chomping :=
    match cs.reverse with
    | a :: before =>
      if !isLineEnd a then "-"
      else if before.isEmpty || before.head?.any isLineEnd then "+"
      else ""
    | [] => "-"
  digit ++ chomping

/-- A text as a block scalar with its lines at a column. -/
def writeLiteral (column : Nat) (s : String) : String :=
  "|" ++ literalSigns s.toList ++ "\n" ++ String.ofList (literalBody column true s.toList)

/-- A text and the end of its line, where lines of their own stand at a column. -/
def writeText (column : Nat) (s : String) : String :=
  match styleOf s with
  | .plain => s ++ "\n"
  | .single => writeSingle column s ++ "\n"
  | .double => writeDouble s ++ "\n"
  | .literal => writeLiteral column s

/-- A text as a key, all on one line. -/
def writeKey (name : String) : String :=
  if name.toList.any isLineEnd then writeDouble name
  else
    match styleOf name with
    | .plain => name
    | .single => writeSingle 0 name
    | _ => writeDouble name

/-! ## Documents -/

/-- Some parts on lines of their own at a column, the first of them where the line already is. -/
def stack (column : Nat) (parts : List String) : String :=
  (String.ofList (blanks column)).intercalate parts

/-- Some parts on lines of their own at a column, after what is on the line. -/
def stackBelow (column : Nat) (parts : List String) : String :=
  "\n" ++ String.join (parts.map fun part => String.ofList (blanks column) ++ part)

/-- The items of a list after a key or a dash at a column. -/
def placeItems (column : Nat) (inList : Bool) (parts : List String) : String :=
  if parts.isEmpty then " []\n"
  else if inList then " " ++ stack (column + 2) parts
  else stackBelow column parts

/-- The fields of a record after a key or a dash at a column. -/
def placeFields (column : Nat) (inList : Bool) (parts : List String) : String :=
  if parts.isEmpty then " \x7b\x7d\n"
  else if inList then " " ++ stack (column + 2) parts
  else stackBelow (column + 2) parts

/-- The column of the dashes of a list after a key or a dash at a column. -/
def itemColumn (column : Nat) (inList : Bool) : Nat := if inList then column + 2 else column

mutual

/-- A document after a key or a dash at a column: on the same line, or on lines below. -/
def writeAfter (column : Nat) (inList : Bool) : Document → String
  | .null => " null\n"
  | .bool b => if b then " true\n" else " false\n"
  | .number n => " " ++ n.write .yaml ++ "\n"
  | .text s => " " ++ writeText (column + 2) s
  | .plain s => " " ++ s ++ "\n"
  | .tagged _ style s =>
    " " ++ (if style = .plain then s ++ "\n" else writeText (column + 2) s)
  | .list items => placeItems column inList (writeItems (itemColumn column inList) items)
  | .sequence items => placeItems column inList (writeItems (itemColumn column inList) items)
  | .record fields => placeFields column inList (writeFields (column + 2) fields)
  | .unreadable => " null\n"

/-- The items of a list with its dashes at a column. -/
def writeItems (column : Nat) : List Document → List String
  | [] => []
  | d :: ds => ("-" ++ writeAfter column true d) :: writeItems column ds

/-- The fields of a record with its keys at a column. -/
def writeFields (column : Nat) : List (String × Document) → List String
  | [] => []
  | (name, d) :: ds => (writeKey name ++ ":" ++ writeAfter column false d) :: writeFields column ds

end

/-- A whole document as a text. -/
def write : Document → String
  | .record (f :: fs) => String.join (writeFields 0 (f :: fs))
  | .list (d :: ds) => String.join (writeItems 0 (d :: ds))
  | .sequence (d :: ds) => String.join (writeItems 0 (d :: ds))
  | d => String.ofList ((writeAfter 0 true d).toList.drop 1)

end HomeClimate.Yaml
