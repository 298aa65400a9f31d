import HomeClimate.Number.Decimal
import HomeClimate.Number.Power

/-!
# Scalars of no type yet

In YAML a scalar without quotes gets its type from what is asked of it.  The
readers of `PlainScalar` tell whether a text is a null, a truth value, a whole
number or a number.

A *tag* in front of a scalar names a type.  It is kept as octets, for a tag may be
written with escapes that make no text.  Tags of the core types are `Tag.null` and
its like; a tag that starts with an exclamation mark is a *local* one, and names a
choice.
-/

namespace HomeClimate

/-! ## Styles and tags -/

/-- How a scalar of YAML is written. -/
inductive ScalarStyle where
  | plain
  | quoted
  /-- A block that keeps its line ends. -/
  | literal
  /-- A block whose line ends are folded. -/
  | folded
  deriving Repr, DecidableEq, Inhabited

/-- The name of a type. -/
structure Tag where
  /-- The octets of the name. -/
  octets : List UInt8
  deriving Repr, DecidableEq, Inhabited

namespace Tag

/-- The tag of a text. -/
def ofText (s : String) : Tag := ⟨s.toUTF8.toList⟩

/-- A type of the core. -/
def core (name : String) : Tag := ofText ("tag:yaml.org,2002:" ++ name)

/-- The type of no value. -/
def null : Tag := core "null"

/-- The type of truth values. -/
def bool : Tag := core "bool"

/-- The type of whole numbers. -/
def integer : Tag := core "int"

/-- The type of numbers. -/
def number : Tag := core "float"

/-- The name in a local tag, if it is a text. -/
def localName? (t : Tag) : Option String :=
  match t.octets with
  | [] => none
  | c :: cs => if c = 33 then String.fromUTF8? ⟨cs.toArray⟩ else none

end Tag

/-! ## Plain scalars -/

namespace PlainScalar

/-- The words for no value. -/
def isNull (s : String) : Bool := s ∈ ["null", "Null", "NULL", "~"]

/-- The words for a truth value. -/
def bool? (s : String) : Option Bool :=
  if s ∈ ["true", "True", "TRUE"] then some true
  else if s ∈ ["false", "False", "FALSE"] then some false
  else none

/-- The value of a digit in bases up to sixteen. -/
def baseDigit? (base : Nat) (c : Char) : Option Nat :=
  let n := c.toNat
  let v :=
    if 48 ≤ n ∧ n ≤ 57 then n - 48
    else if 97 ≤ n ∧ n ≤ 102 then n - 87
    else if 65 ≤ n ∧ n ≤ 70 then n - 55
    else 99
  if v < base then some v else none

/-- Digits in some base, at least one. -/
def digits? (base : Nat) (cs : List Char) : Option Nat :=
  if cs.isEmpty then none
  else cs.foldl (fun acc c => do return (← acc) * base + (← baseDigit? base c)) (some 0)

/-- Digits with a leading zero, which is not how a number is written. -/
def hasLeadingZero (cs : List Char) : Bool :=
  let cs := match cs with
    | c :: rest => if c = '-' || c = '+' then rest else cs
    | [] => []
  match cs with
  | '0' :: rest => !rest.isEmpty && rest.all Char.isDigit
  | _ => false

/-- Digits after one of the marks for a base. -/
def based? : List Char → Option Nat
  | '0' :: 'x' :: cs => digits? 16 cs
  | '0' :: 'o' :: cs => digits? 8 cs
  | '0' :: 'b' :: cs => digits? 2 cs
  | _ => none

/-- Digits in base ten, or in another base with its mark. -/
def unsigned? (cs : List Char) : Option Nat :=
  match based? cs with
  | some n => some n
  | none => if hasLeadingZero cs then none else digits? 10 cs

/-- A natural number, with no sign or a plus. -/
def natural? (s : String) : Option Nat :=
  match s.toList with
  | '+' :: cs => unsigned? cs
  | cs => unsigned? cs

/-- A whole number, with a sign or without. -/
def integer? (s : String) : Option Int :=
  match s.toList with
  | '-' :: cs => (unsigned? cs).map fun n => -(n : Int)
  | '+' :: cs => (unsigned? cs).map Int.ofNat
  | cs => (unsigned? cs).map Int.ofNat

/-- A number with a point or an exponent, or one of the words for infinity and no number. -/
def number? (s : String) : Option NumberWord :=
  if s ∈ [".inf", ".Inf", ".INF", "+.inf", "+.Inf", "+.INF"] then some (.infinite false)
  else if s ∈ ["-.inf", "-.Inf", "-.INF"] then some (.infinite true)
  else if s ∈ [".nan", ".NaN", ".NAN"] then some (.notANumber false)
  else
    match s.toList with
    | '+' :: '-' :: _ => none
    | '+' :: '+' :: _ => none
    | cs =>
      match Decimal.readWord? cs with
      | some (.finite d) => some (.finite d)
      | _ => none

end PlainScalar

end HomeClimate
