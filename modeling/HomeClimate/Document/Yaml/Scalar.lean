import HomeClimate.Document.Yaml.Place
import HomeClimate.Number.Decimal
import HomeClimate.Text.Quoted

/-!
# Scalars of a YAML text

The readers here take one scalar at a place and give its value and the place
after it.

* A plain scalar ends at a colon before a blank, at a comment, and in brackets at
  a comma or a bracket.  It goes on over lines that are indented more than the
  block it is in.
* A quoted scalar ends at its quote.
* A block scalar has its lines below its mark, indented more than the block.

Where a scalar that is not a literal block goes over a line end, one line feed is a
space, and of more than one the first is dropped.  A separator of lines is never
dropped.
-/

namespace HomeClimate.Yaml

/-! ## Gaps inside a scalar -/

/-- Blanks and line ends between two parts of a scalar. -/
structure Gap where
  /-- Blanks before the first line end. -/
  blanks : List Char
  /-- Whether there is a line end. -/
  isBroken : Bool
  /-- The first line end, if it counts. -/
  first : List Char
  /-- The other line ends. -/
  more : List Char

namespace Gap

/-- No gap. -/
def none : Gap := ⟨[], false, [], []⟩

/-- The gap after a line end that does not count. -/
def escaped : Gap := ⟨[], true, [], []⟩

/-- The gap with one more line end. -/
def break_ (g : Gap) (c : Char) : Gap :=
  if g.isBroken then { g with more := g.more ++ [c] }
  else { g with isBroken := true, first := [c] }

/-- The gap with one more blank.  Only blanks before the first line end count. -/
def blank (g : Gap) (c : Char) : Gap :=
  if g.isBroken then g else { g with blanks := g.blanks ++ [c] }

/-- The characters that a gap stands for. -/
def fold (g : Gap) : List Char :=
  if !g.isBroken then g.blanks
  else if g.first = ['\n'] then if g.more.isEmpty then [' '] else g.more
  else g.first ++ g.more

end Gap

/-- The gap at a place, after a gap read before it, and the place after it.  A tab on a later line
in front of the column given is an error. -/
def readGap? (tabsFrom : Nat) : (fuel : Nat) → Gap → Place → Option (Gap × Place)
  | 0, g, p => some (g, p)
  | fuel + 1, g, p =>
    match p.lineEnd? with
    | some (c, q) => readGap? tabsFrom fuel (g.break_ c) q
    | none =>
      match p.rest with
      | c :: _ =>
        if !isSpace c then some (g, p)
        else if g.isBroken && c = '\t' && p.column < tabsFrom then none
        else readGap? tabsFrom fuel (g.blank c) p.next
      | [] => some (g, p)

/-! ## Plain scalars -/

/-- Characters that no plain scalar starts with. -/
def marks : List Char := "-?:,[]\x7b\x7d#&*!|>'\"%@".toList ++ [Char.ofNat 96]

/-- Characters that end a plain scalar in brackets. -/
def bracketMarks : List Char := [',', '[', ']', '\x7b', '\x7d']

/-- Whether a plain scalar may start with this. -/
def startsPlain (inBrackets : Bool) : List Char → Bool
  | [] => false
  | c :: cs =>
    !startsBlank (c :: cs) &&
      (!marks.contains c || (c = '-' && !startsBlank cs) ||
        (!inBrackets && (c = '?' || c = ':') && !startsBlank cs))

/-- Whether a bracket mark or a question mark comes next. -/
def startsBracketMark : List Char → Bool
  | [] => false
  | c :: _ => bracketMarks.contains c || c = '?'

/-- The characters of a plain scalar up to a blank or its end.  None at a colon before a bracket
mark, which is an error. -/
def plainChunk? (inBrackets : Bool) : List Char → Option (List Char)
  | [] => some []
  | c :: cs =>
    if startsBlank (c :: cs) then some []
    else if inBrackets && c = ':' && startsBracketMark cs then none
    else if c = ':' && startsBlank cs then some []
    else if inBrackets && bracketMarks.contains c then some []
    else (plainChunk? inBrackets cs).map (c :: ·)

/-- A plain scalar from here on, after a gap, with lines from a column on: its characters, whether
it ended behind a line end, and the place after it. -/
def plainRest? (inBrackets : Bool) (indent : Nat) :
    (fuel : Nat) → List Char → Gap → Place → Option (List Char × Bool × Place)
  | 0, out, gap, p => some (out, gap.isBroken, p)
  | fuel + 1, out, gap, p => do
    if p.atMarker || p.rest.head? = some '#' then some (out, gap.isBroken, p)
    else
      let chunk ← plainChunk? inBrackets p.rest
      let out := if chunk.isEmpty then out else out ++ gap.fold ++ chunk
      let gap := if chunk.isEmpty then gap else .none
      let p := p.skip chunk.length
      if p.rest.isEmpty || !startsBlank p.rest then some (out, gap.isBroken, p)
      else
        let (gap, p) ← readGap? indent (p.rest.length + 1) gap p
        if !inBrackets && p.column < indent then some (out, gap.isBroken, p)
        else plainRest? inBrackets indent fuel out gap p

/-- A plain scalar with lines from a column on, whether it ended behind a line end, and the place
after it. -/
def plain? (inBrackets : Bool) (indent : Nat) (p : Place) : Option (String × Bool × Place) := do
  let (out, broken, q) ← plainRest? inBrackets indent (p.rest.length + 1) [] .none p
  some (String.ofList out, broken, q)

/-! ## Quoted scalars -/

/-- So many hexadecimal digits as a character. -/
def hexChar? (digits : Nat) (cs : List Char) : Option Char := do
  let taken := cs.take digits
  let n ← taken.foldl (fun acc c => do return (← acc) * 16 + (← Text.hexValue? c)) (some 0)
  if taken.length = digits ∧ (n < 0xD800 ∨ 0xDFFF < n) ∧ n ≤ 0x10FFFF then some (Char.ofNat n)
  else none

/-- The character of an escape after its backslash, and its length. -/
def escape? : List Char → Option (Char × Nat)
  | [] => none
  | c :: cs =>
    let simple : Option Nat := match c with
      | '0' => some 0
      | 'a' => some 7
      | 'b' => some 8
      | 't' => some 9
      | '\t' => some 9
      | 'n' => some 10
      | 'v' => some 11
      | 'f' => some 12
      | 'r' => some 13
      | 'e' => some 27
      | ' ' => some 32
      | '"' => some 34
      | '/' => some 47
      | '\\' => some 92
      | 'N' => some 0x85
      | '_' => some 0xA0
      | 'L' => some 0x2028
      | 'P' => some 0x2029
      | _ => none
    match simple with
    | some n => some (Char.ofNat n, 1)
    | none =>
      if c = 'x' then (hexChar? 2 cs).map fun d => (d, 3)
      else if c = 'u' then (hexChar? 4 cs).map fun d => (d, 5)
      else if c = 'U' then (hexChar? 8 cs).map fun d => (d, 9)
      else none

/-- A quoted scalar after its opening quote.  A mark between documents is an error in it. -/
def quotedRest? (quote : Char) : (fuel : Nat) → List Char → Place → Option (List Char × Place)
  | 0, _, _ => none
  | fuel + 1, out, p =>
    if p.atMarker then none
    else
      match p.rest with
      | [] => none
      | c :: cs =>
        if c = quote then
          if quote = '\'' ∧ cs.head? = some '\'' then
            quotedRest? quote fuel (out ++ ['\'']) (p.skip 2)
          else some (out, p.next)
        else if quote = '"' ∧ c = '\\' then
          match p.next.lineEnd? with
          | some (_, q) => do
            let (gap, q) ← readGap? 0 (cs.length + 1) .escaped q
            quotedRest? quote fuel (out ++ gap.fold) q
          | none => do
            let (d, n) ← escape? cs
            quotedRest? quote fuel (out ++ [d]) (p.skip (n + 1))
        else if startsBlank (c :: cs) then do
          let (gap, q) ← readGap? 0 (cs.length + 2) .none p
          quotedRest? quote fuel (out ++ gap.fold) q
        else quotedRest? quote fuel (out ++ [c]) p.next

/-- A quoted scalar, at its opening quote. -/
def quoted? (quote : Char) (p : Place) : Option (String × Place) :=
  (quotedRest? quote (p.rest.length + 1) [] p.next).map fun (out, q) => (String.ofList out, q)

/-! ## Block scalars -/

/-- What is done with the line ends after a block scalar. -/
inductive Chomping where
  | strip
  | clip
  | keep
  deriving DecidableEq

/-- The chomping that a sign asks for. -/
def chomping? (c : Char) : Option Chomping :=
  if c = '-' then some .strip else if c = '+' then some .keep else none

/-- The indentation that a digit asks for. -/
def indentDigit? (c : Char) : Option Nat :=
  if '1' ≤ c ∧ c ≤ '9' then some (Decimal.digitValue c) else none

/-- The signs after the mark of a block scalar: chomping, indentation and their length. -/
def blockHeader : List Char → Chomping × Option Nat × Nat
  | c :: cs =>
    match chomping? c with
    | some k => match cs.head?.bind indentDigit? with
      | some n => (k, some n, 2)
      | none => (k, none, 1)
    | none => match indentDigit? c with
      | some n => match cs.head?.bind chomping? with
        | some k => (k, some n, 2)
        | none => (.clip, some n, 1)
      | none => (.clip, none, 0)
  | [] => (.clip, none, 0)

/-- Empty lines at a place, with an indentation if it is known: their line ends, the widest run of
spaces seen, and the place of the next line with something.  None at a tab in the indentation. -/
def emptyLines? (indent : Option Nat) :
    (fuel : Nat) → (ends : List Char) → (widest : Nat) → Place → Option (List Char × Nat × Place)
  | 0, ends, widest, p => some (ends, widest, p)
  | fuel + 1, ends, widest, p =>
    let spaces := (p.rest.takeWhile (· = ' ')).length
    let spaces := match indent with
      | some n => min spaces (n - p.column)
      | none => spaces
    let p := p.skip spaces
    let widest := max widest p.column
    let open_ := match indent with | some n => decide (p.column < n) | none => true
    if open_ && p.rest.head? = some '\t' then none
    else
      match p.lineEnd? with
      | some (c, q) => emptyLines? indent fuel (ends ++ [c]) widest q
      | none => some (ends, widest, p)

/-- What a line end and the empty lines after it stand for between two lines of a block, where a
folded block folds. -/
def blockJoin (folds : Bool) (first more : List Char) : List Char :=
  if folds && first = ['\n'] then if more.isEmpty then [' '] else more else first ++ more

/-- The lines of a block scalar after a line end and empty lines: what is read, and the line end and
the empty lines after it. -/
def blockLines? (literal : Bool) (indent : Nat) :
    (fuel : Nat) → (out first more : List Char) → (blank : Bool) → Place →
      Option (List Char × List Char × List Char × Place)
  | 0, out, first, more, _, p => some (out, first, more, p)
  | fuel + 1, out, first, more, blank, p =>
    if p.column = indent ∧ p.rest ≠ [] then
      let startsWithBlank := match p.rest with | c :: _ => isSpace c | [] => false
      let text := p.rest.takeWhile fun c => !isLineEnd c
      let out := out ++ blockJoin (!literal && !blank && !startsWithBlank) first more ++ text
      let q := p.skip text.length
      let (first, q) := match q.lineEnd? with
        | some (c, q) => ([c], q)
        | none => ([], q)
      match emptyLines? (some indent) (q.rest.length + 1) [] 0 q with
      | none => none
      | some (more, _, r) => blockLines? literal indent fuel out first more startsWithBlank r
    else some (out, first, more, p)

/-- The place of the first line of a block, after the signs behind its mark. -/
def blockBody? (p : Place) : Option Place :=
  let p := p.skipSpaces.skipComment
  match p.lineEnd? with
  | some (_, q) => some q
  | none => if p.rest.isEmpty then some p else none

/-- A block scalar at its mark, in a block at column `parent`. -/
def block? (parent : Int) (p : Place) : Option (String × Place) := do
  let literal := p.rest.head? = some '|'
  let p := p.next
  let (chomping, asked, width) := blockHeader p.rest
  let p ← blockBody? (p.skip width)
  let known := asked.map (parent.toNat + ·)
  let (more, widest, p) ← emptyLines? known (p.rest.length + 1) [] 0 p
  let indent := known.getD (max widest (max (parent + 1).toNat 1))
  let (out, first, more, p) ← blockLines? literal indent (p.rest.length + 1) [] [] more false p
  let tail := match chomping with
    | .strip => []
    | .clip => first
    | .keep => first ++ more
  some (String.ofList (out ++ tail), p)

end HomeClimate.Yaml
