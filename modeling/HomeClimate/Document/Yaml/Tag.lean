import HomeClimate.Document.Scalar
import HomeClimate.Document.Yaml.Place
import HomeClimate.Text.Quoted

/-!
# Tags of a YAML text

A tag is written as a *handle* and the rest of the name.

* `!<name>`: no handle and the whole name.
* `!!name` and `!h!name`: a handle between exclamation marks.
* `!name`: the handle `!`.
* `!` alone: no handle, and the name `!`.

Handles stand for the start of a name.  `!` and `!!` have a meaning of their own
unless a directive gives them another.  A name may have escapes, each a percent sign
and two hexadecimal digits for an octet; escapes come in groups as long as the first
octet of a character says.  Nothing after a zero octet counts.
-/

namespace HomeClimate.Yaml

/-! ## Names -/

/-- Whether a character may stand in a name; in one between angle brackets, also marks of lists. -/
def isTagChar (verbatim : Bool) (c : Char) : Bool :=
  isNameChar c || ";/?:@&=+$.%!~*'()".toList.contains c || (verbatim && ",[]".toList.contains c)

/-- An escape at a place: its octet, and the place after it. -/
def octet? (p : Place) : Option (Nat × Place) :=
  match p.rest with
  | '%' :: a :: b :: _ => do
    let a ← Text.hexValue? a
    let b ← Text.hexValue? b
    some (16 * a + b, p.skip 3)
  | _ => none

/-- The number of octets of a character, by its first one. -/
def octetWidth? (n : Nat) : Option Nat :=
  if n < 0x80 then some 1
  else if 0xC0 ≤ n ∧ n < 0xE0 then some 2
  else if 0xE0 ≤ n ∧ n < 0xF0 then some 3
  else if 0xF0 ≤ n ∧ n < 0xF8 then some 4
  else none

/-- So many escapes of octets that go on a character. -/
def laterOctets? : (count : Nat) → Place → Option (List Nat × Place)
  | 0, p => some ([], p)
  | count + 1, p => do
    let (n, p) ← octet? p
    if 0x80 ≤ n ∧ n < 0xC0 then
      let (ns, p) ← laterOctets? count p
      some (n :: ns, p)
    else none

/-- The escapes of one character. -/
def escapes? (p : Place) : Option (List Nat × Place) := do
  let (n, p) ← octet? p
  let width ← octetWidth? n
  let (ns, p) ← laterOctets? (width - 1) p
  some (n :: ns, p)

/-- The octets of a name from here on, and the place after it. -/
def nameOctets? (verbatim : Bool) : (fuel : Nat) → Place → Option (List Nat × Place)
  | 0, p => some ([], p)
  | fuel + 1, p =>
    match p.rest with
    | c :: _ =>
      if c = '%' then do
        let (ns, p) ← escapes? p
        let (more, p) ← nameOctets? verbatim fuel p
        some (ns ++ more, p)
      else if isTagChar verbatim c then do
        let (more, p) ← nameOctets? verbatim fuel p.next
        some (c.toNat :: more, p)
      else some ([], p)
    | [] => some ([], p)

/-- A name that starts with characters read before it.  It may be empty with `mayBeEmpty` only. -/
def name? (verbatim mayBeEmpty : Bool) (head : List Char) (p : Place) :
    Option (List UInt8 × Place) := do
  let (octets, q) ← nameOctets? verbatim p.rest.length p
  if head.isEmpty && octets.isEmpty && !mayBeEmpty then none
  else
    let octets := head.map Char.toNat ++ octets
    some ((octets.takeWhile (· ≠ 0)).map Nat.toUInt8, q)

/-! ## Tags -/

/-- A tag as it is written. -/
structure WrittenTag where
  /-- What stands for the start of the name, if anything. -/
  handle : String
  /-- The rest of the name. -/
  suffix : List UInt8

/-- An exclamation mark, letters, and another exclamation mark if there is one. -/
def handle (p : Place) : List Char × Place :=
  let name := '!' :: (p.rest.drop 1).takeWhile isNameChar
  let q := p.skip name.length
  if q.rest.head? = some '!' then (name ++ ['!'], q.next) else (name, q)

/-- Whether a handle stands between exclamation marks. -/
def isClosed (handle : List Char) : Bool := 1 < handle.length && handle.getLast? = some '!'

/-- A tag at its exclamation mark, without what has to follow it. -/
def tagBody? (p : Place) : Option (WrittenTag × Place) :=
  match p.rest with
  | '!' :: '<' :: _ => do
    let (name, q) ← name? true false [] (p.skip 2)
    if q.rest.head? = some '>' then some (⟨"", name⟩, q.next) else none
  | _ => do
    let (handle, q) := handle p
    if isClosed handle then
      let (name, q) ← name? false false [] q
      some (⟨String.ofList handle, name⟩, q)
    else
      let (name, q) ← name? false true (handle.drop 1) q
      some (if name.isEmpty then ⟨"", [33]⟩ else ⟨"!", name⟩, q)

/-- A tag at its exclamation mark, and the place after it.  A blank has to follow, or a comma in
brackets. -/
def tag? (inBrackets : Bool) (p : Place) : Option (WrittenTag × Place) := do
  let (tag, q) ← tagBody? p
  if startsBlank q.rest || (inBrackets && q.rest.head? = some ',') then some (tag, q) else none

/-! ## Handles -/

/-- What handles stand for. -/
abbrev Handles := List (String × List UInt8)

/-- What handles stand for when no directive says so. -/
def Handles.standard : Handles := [("!", [33]), ("!!", "tag:yaml.org,2002:".toUTF8.toList)]

/-- The tag that is written, if its handle is known. -/
def WrittenTag.resolve? (t : WrittenTag) (handles : Handles) : Option Tag :=
  if t.handle.isEmpty then some ⟨t.suffix⟩
  else ((handles ++ .standard).lookup t.handle).map fun start => ⟨start ++ t.suffix⟩

end HomeClimate.Yaml
