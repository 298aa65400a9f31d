import HomeClimate.Document.Yaml.Scalar
import HomeClimate.Document.Yaml.Tag

/-!
# Tokens of a YAML text

`tokens?` cuts a text into tokens.  It also turns indentation into tokens: a block
starts where a dash, a key or a colon stands further right than the blocks around
it, and ends before the first thing further left.  In brackets indentation means
nothing.

A key without a question mark is known only by the colon after it.  So where a key
may start its place is remembered, one place in each pair of brackets, and when the
colon comes a token for the key is put in there.

* The colon has to be on the line of the key, and at most 1024 characters after its
  start.
* A key may start on a fresh line, after a dash, a question mark or the colon of such
  a key, and in brackets after a comma or a bracket.
* What stands at the very column of a block has to be a key.
-/

namespace HomeClimate.Yaml

/-- A token. -/
inductive Token where
  /-- A directive for the version. -/
  | version (major minor : Nat)
  /-- A directive for a handle. -/
  | handle (name : String) (octets : List UInt8)
  | documentStart
  | documentEnd
  | blockListStart
  | blockRecordStart
  | blockEnd
  | listStart
  | listEnd
  | recordStart
  | recordEnd
  /-- A dash. -/
  | item
  /-- A comma. -/
  | comma
  /-- The start of a key. -/
  | key
  /-- The colon after a key. -/
  | value
  | alias (name : String)
  | anchor (name : String)
  | tag (t : WrittenTag)
  | scalar (style : ScalarStyle) (s : String)
  deriving Inhabited

/-! ## Directives and names -/

/-- Digits of a version, nine at most. -/
def versionNumber? (p : Place) : Option (Nat × Place) :=
  let digits := p.rest.takeWhile Char.isDigit
  if digits.isEmpty ∨ 9 < digits.length then none
  else some (Decimal.digitsValue 0 digits, p.skip digits.length)

/-- What follows the name of a version directive. -/
def versionDirective? (p : Place) : Option (Token × Place) := do
  let (major, p) ← versionNumber? p.skipSpaces
  if p.rest.head? = some '.' then
    let (minor, p) ← versionNumber? p.next
    some (.version major minor, p)
  else none

/-- What follows the name of a handle directive. -/
def handleDirective? (p : Place) : Option (Token × Place) := do
  let p := p.skipSpaces
  let (handle, q) := handle p
  let known := p.rest.head? = some '!' && (handle.length = 1 || isClosed handle)
  let blank := match q.rest with | c :: _ => isSpace c | [] => false
  if known && blank then
    let (octets, q) ← name? true false [] q.skipSpaces
    if startsBlank q.rest then some (.handle (String.ofList handle) octets, q) else none
  else none

/-- A directive at its percent sign, and the start of the next line. -/
def directive? (p : Place) : Option (Token × Place) := do
  let p := p.next
  let name := p.rest.takeWhile isNameChar
  let p := p.skip name.length
  let (token, p) ←
    if !startsBlank p.rest then none
    else if name = "YAML".toList then versionDirective? p
    else if name = "TAG".toList then handleDirective? p
    else none
  let q ← blockBody? p
  some (token, q)

/-- The name of an anchor or an alias after its mark. -/
def anchorName? (p : Place) : Option (String × Place) :=
  let p := p.next
  let name := p.rest.takeWhile isNameChar
  let q := p.skip name.length
  let ends := startsBlank q.rest ||
    (match q.rest with
     | c :: _ => ("?:,]\x7d%@".toList ++ [Char.ofNat 96]).contains c
     | [] => true)
  if name.isEmpty || !ends then none else some (String.ofList name, q)

/-! ## The state of a cut -/

/-- Where a key may have started. -/
structure KeyStart where
  /-- The number of tokens before it. -/
  position : Nat
  /-- Where it starts. -/
  place : Place
  /-- Whether it has to be a key. -/
  isRequired : Bool

/-- A text that is cut up to a place. -/
structure Cut where
  /-- The place. -/
  place : Place
  /-- The tokens up to there, the last one first. -/
  tokens : List Token
  /-- The number of tokens. -/
  count : Nat
  /-- The column of the innermost block, -1 outside of all. -/
  indent : Int
  /-- The columns of the blocks around it. -/
  outerIndents : List Int
  /-- Where a key may have started in the innermost brackets. -/
  key : Option KeyStart
  /-- Where keys may have started around them, for each pair of brackets. -/
  outerKeys : List (Option KeyStart)
  /-- Whether a key may start here. -/
  mayStartKey : Bool

namespace Cut

/-- A text of which nothing is cut. -/
def start (cs : List Char) : Cut :=
  { place := .start cs, tokens := [], count := 0, indent := -1, outerIndents := [], key := none,
    outerKeys := [], mayStartKey := true }

/-- Whether the place is in brackets. -/
def inBrackets (c : Cut) : Bool := !c.outerKeys.isEmpty

/-- The cut with one more token. -/
def add (c : Cut) (t : Token) : Cut := { c with tokens := t :: c.tokens, count := c.count + 1 }

/-- The cut with a token after the first ones. -/
def insert (c : Cut) (position : Nat) (t : Token) : Cut :=
  let later := c.count - position
  { c with tokens := c.tokens.take later ++ t :: c.tokens.drop later, count := c.count + 1 }

/-- The cut at another place. -/
def moveTo (c : Cut) (p : Place) : Cut := { c with place := p }

/-- The cut with keys from here on, or without. -/
def allowKey (c : Cut) (allowed : Bool) : Cut := { c with mayStartKey := allowed }

/-- The cut after blanks, comments and line ends.  A tab is a blank only where no key may start.  A
line end outside of brackets lets one start. -/
def skipGap : (fuel : Nat) → Cut → Cut
  | 0, c => c
  | fuel + 1, c =>
    let p := c.place
    let p := if p.column = 0 && p.rest.head?.any isByteOrderMark then p.next else p
    let tabs := c.inBrackets || !c.mayStartKey
    let p := (p.skipWhile fun d => d = ' ' || (tabs && d = '\t')).skipComment
    match p.lineEnd? with
    | some (_, q) => skipGap fuel ((c.moveTo q).allowKey (c.mayStartKey || !c.inBrackets))
    | none => c.moveTo p

/-! ### Keys -/

/-- The cut without the key of the innermost brackets.  None if it had to be one. -/
def dropKey? (c : Cut) : Option Cut :=
  if c.key.any KeyStart.isRequired then none else some { c with key := none }

/-- The cut with a key that may start here. -/
def startKey? (c : Cut) : Option Cut :=
  if c.mayStartKey then do
    let required := !c.inBrackets && c.indent = c.place.column
    let c ← c.dropKey?
    some { c with key := some ⟨c.count, c.place, required⟩ }
  else some c

/-- Whether a key started too far back for a colon here. -/
def isStale (c : Cut) (k : KeyStart) : Bool :=
  k.place.line < c.place.line || k.place.index + 1024 < c.place.index

/-- The cut without the keys that started too far back.  None if one of them had to be a key. -/
def dropStaleKeys? (c : Cut) : Option Cut :=
  let isStale := fun (k : Option KeyStart) => k.any c.isStale
  let stale := (c.key :: c.outerKeys).filter isStale
  if stale.any fun k => k.any KeyStart.isRequired then none
  else
    let fresh := fun k => if isStale k then none else k
    some { c with key := fresh c.key, outerKeys := c.outerKeys.map fresh }

/-! ### Blocks -/

/-- The cut with a block that starts at a column, if it is further right than the block around it.
Its token goes after the first ones. -/
def openBlock (c : Cut) (column position : Nat) (t : Token) : Cut :=
  if c.inBrackets || (column : Int) ≤ c.indent then c
  else { c with indent := column, outerIndents := c.indent :: c.outerIndents }.insert position t

/-- So many of the innermost blocks ended, if they are further right than a column. -/
def closeBlocks (column : Int) : (blocks : Nat) → Cut → Cut
  | 0, c => c
  | blocks + 1, c =>
    if c.indent ≤ column then c
    else
      closeBlocks column blocks
        { c.add .blockEnd with
          indent := c.outerIndents.headD (-1), outerIndents := c.outerIndents.tail }

/-- The cut with the blocks ended that are further right than a column. -/
def unindent (c : Cut) (column : Int) : Cut :=
  if c.inBrackets then c else closeBlocks column c.outerIndents.length c

/-! ### Tokens -/

/-- The cut with all blocks ended and no key, as between documents. -/
def leaveBlocks? (c : Cut) : Option Cut := do
  let c ← (c.unindent (-1)).dropKey?
  some (c.allowKey false)

/-- A token of so many characters. -/
def take (c : Cut) (width : Nat) (t : Token) : Cut := (c.add t).moveTo (c.place.skip width)

/-- A directive. -/
def takeDirective? (c : Cut) : Option Cut := do
  let c ← c.leaveBlocks?
  let (t, p) ← directive? c.place
  some ((c.add t).moveTo p)

/-- A mark between documents. -/
def takeMarker? (c : Cut) (t : Token) : Option Cut := do
  let c ← c.leaveBlocks?
  some (c.take 3 t)

/-- An opening bracket. -/
def takeOpening? (c : Cut) (t : Token) : Option Cut := do
  let c ← c.startKey?
  some ({ c with key := none, outerKeys := c.key :: c.outerKeys }.allowKey true |>.take 1 t)

/-- A closing bracket. -/
def takeClosing? (c : Cut) (t : Token) : Option Cut := do
  let c ← c.dropKey?
  let c := match c.outerKeys with
    | k :: ks => { c with key := k, outerKeys := ks }
    | [] => c
  some (c.allowKey false |>.take 1 t)

/-- A comma. -/
def takeComma? (c : Cut) : Option Cut := do
  let c ← c.dropKey?
  some (c.allowKey true |>.take 1 .comma)

/-- A dash.  In a block it has to be where a key may start. -/
def takeItem? (c : Cut) : Option Cut :=
  if !c.inBrackets && !c.mayStartKey then none
  else do
    let c ← (c.openBlock c.place.column c.count .blockListStart).dropKey?
    some (c.allowKey true |>.take 1 .item)

/-- A question mark.  In a block it has to be where a key may start. -/
def takeKey? (c : Cut) : Option Cut :=
  if !c.inBrackets && !c.mayStartKey then none
  else do
    let c ← (c.openBlock c.place.column c.count .blockRecordStart).dropKey?
    some (c.allowKey (!c.inBrackets) |>.take 1 .key)

/-- A colon: behind a key that started before it, or where a key may start. -/
def takeValue? (c : Cut) : Option Cut :=
  match c.key with
  | some k =>
    let c := { c with key := none }.insert k.position .key
    let c := c.openBlock k.place.column k.position .blockRecordStart
    some (c.allowKey false |>.take 1 .value)
  | none =>
    if !c.inBrackets && !c.mayStartKey then none
    else
      let c := c.openBlock c.place.column c.count .blockRecordStart
      some (c.allowKey (!c.inBrackets) |>.take 1 .value)

/-- An anchor or an alias. -/
def takeName? (c : Cut) (token : String → Token) : Option Cut := do
  let c ← c.startKey?
  let (name, p) ← anchorName? c.place
  some (c.allowKey false |>.add (token name) |>.moveTo p)

/-- A tag. -/
def takeTag? (c : Cut) : Option Cut := do
  let c ← c.startKey?
  let (t, p) ← tag? c.inBrackets c.place
  some (c.allowKey false |>.add (.tag t) |>.moveTo p)

/-- A block scalar. -/
def takeBlock? (c : Cut) (style : ScalarStyle) : Option Cut := do
  let c ← c.dropKey?
  let (s, p) ← block? c.indent c.place
  some (c.allowKey true |>.add (.scalar style s) |>.moveTo p)

/-- A quoted scalar. -/
def takeQuoted? (c : Cut) (quote : Char) : Option Cut := do
  let c ← c.startKey?
  let (s, p) ← quoted? quote c.place
  some (c.allowKey false |>.add (.scalar .quoted s) |>.moveTo p)

/-- A plain scalar.  A key may start behind one that ended behind a line end. -/
def takePlain? (c : Cut) : Option Cut := do
  let c ← c.startKey?
  let (s, broken, p) ← plain? c.inBrackets (c.indent + 1).toNat c.place
  some (c.allowKey broken |>.add (.scalar .plain s) |>.moveTo p)

/-- The cut after the token that starts with a character before others. -/
def takeToken? (c : Cut) (first : Char) (others : List Char) : Option Cut :=
  let marked := c.inBrackets || startsBlank others
  if c.place.column = 0 ∧ first = '%' then c.takeDirective?
  else if c.place.atTriple '-' then c.takeMarker? .documentStart
  else if c.place.atTriple '.' then c.takeMarker? .documentEnd
  else if first = '[' then c.takeOpening? .listStart
  else if first = '\x7b' then c.takeOpening? .recordStart
  else if first = ']' then c.takeClosing? .listEnd
  else if first = '\x7d' then c.takeClosing? .recordEnd
  else if first = ',' then c.takeComma?
  else if first = '-' ∧ startsBlank others then c.takeItem?
  else if first = '?' ∧ marked then c.takeKey?
  else if first = ':' ∧ marked then c.takeValue?
  else if first = '*' then c.takeName? .alias
  else if first = '&' then c.takeName? .anchor
  else if first = '!' then c.takeTag?
  else if first = '|' ∧ !c.inBrackets then c.takeBlock? .literal
  else if first = '>' ∧ !c.inBrackets then c.takeBlock? .folded
  else if first = '\'' ∨ first = '"' then c.takeQuoted? first
  else if startsPlain c.inBrackets (first :: others) then c.takePlain?
  else none

/-- The tokens of the whole text, from here on. -/
def finish? : (fuel : Nat) → Cut → Option (List Token)
  | 0, _ => none
  | fuel + 1, c => do
    let c ← (skipGap (c.place.rest.length + 1) c).dropStaleKeys?
    let c := c.unindent c.place.column
    match c.place.rest with
    | [] =>
      let c ← c.leaveBlocks?
      some c.tokens.reverse
    | first :: others =>
      let c ← c.takeToken? first others
      finish? fuel c

end Cut

/-- The tokens of a text. -/
def tokens? (cs : List Char) : Option (List Token) := Cut.finish? (cs.length + 1) (.start cs)

end HomeClimate.Yaml
