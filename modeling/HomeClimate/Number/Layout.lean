import HomeClimate.Number.Shortest

/-!
# How numbers are written

A *layout* turns the shortest digits of a double into a text.  The digits are
chosen once, in `Digits.shortest`, and a layout only places the point, the zeros
and the exponent.  Four layouts are used.

* `plain`: for messages.  Never an exponent, and whole numbers have no point.
* `precise`: for the fields of a record in a message.
* `json`, `yaml`: for documents.

`fixed` writes a given number of places instead, rounding the exact value.
-/

namespace HomeClimate

/-- Where a number text puts its point and its exponent. -/
structure NumberLayout where
  /-- The least decimal exponent written without an exponent mark, if there is one. -/
  positionalFrom : Option Int
  /-- The least decimal exponent that is too large for that, if there is one. -/
  positionalBelow : Option Int
  /-- Whether whole numbers end in a point and a zero. -/
  wholePoint : Bool
  /-- Whether a positive exponent carries a plus sign. -/
  exponentPlus : Bool
  /-- Which of two equally near decimals is written. -/
  tie : Tie
  /-- The text of no number. -/
  notANumber : String
  /-- The text of positive infinity. -/
  infinity : String
  /-- The text of negative infinity. -/
  minusInfinity : String

namespace NumberLayout

/-- Every digit is written out, and a whole number has no point. -/
def plain : NumberLayout :=
  { positionalFrom := none, positionalBelow := none, wholePoint := false, exponentPlus := false,
    tie := .up, notANumber := "NaN", infinity := "inf", minusInfinity := "-inf" }

/-- A whole number has a point, and an exponent stands below `10 ^ -4` and from `10 ^ 16` on. -/
def precise : NumberLayout :=
  { positionalFrom := some (-4), positionalBelow := some 16, wholePoint := true,
    exponentPlus := false, tie := .up, notANumber := "NaN", infinity := "inf",
    minusInfinity := "-inf" }

/-- Numbers of a JSON document, which has no infinities. -/
def json : NumberLayout :=
  { positionalFrom := some (-5), positionalBelow := some 16, wholePoint := true,
    exponentPlus := true, tie := .even, notANumber := "null", infinity := "null",
    minusInfinity := "null" }

/-- Numbers of a YAML document. -/
def yaml : NumberLayout :=
  { positionalFrom := some (-5), positionalBelow := some 16, wholePoint := true,
    exponentPlus := false, tie := .even, notANumber := ".nan", infinity := ".inf",
    minusInfinity := "-.inf" }

/-- A digit text with its point after the given place, zeros added on either side. -/
def placePoint (wholePoint : Bool) (digits : List Char) (point : Int) : List Char :=
  if point ≤ 0 then '0' :: '.' :: List.replicate point.natAbs '0' ++ digits
  else
    let p := point.natAbs
    if digits.length ≤ p then
      digits ++ List.replicate (p - digits.length) '0' ++ (if wholePoint then ['.', '0'] else [])
    else digits.take p ++ '.' :: digits.drop p

/-- One digit, a point and the rest, and the exponent mark. -/
def placeExponent (plus : Bool) (digits : List Char) (e : Int) : List Char :=
  let body := match digits with
    | [] => ['0']
    | [d] => [d]
    | d :: ds => d :: '.' :: ds
  let sign := if e < 0 then ['-'] else if plus then ['+'] else []
  body ++ 'e' :: sign ++ Nat.toDigits 10 e.natAbs

/-- Whether the decimal exponent `e` of a number is written by placing the point. -/
def isPositional (l : NumberLayout) (e : Int) : Bool :=
  (match l.positionalFrom with | none => true | some a => a ≤ e) &&
  (match l.positionalBelow with | none => true | some a => e < a)

/-- Digits written in a layout, without a sign. -/
def writeDigits (l : NumberLayout) (d : Digits) : List Char :=
  let cs := Nat.toDigits 10 d.digits
  let point := cs.length + d.exponent
  if d.digits = 0 ∨ l.isPositional (point - 1) then
    placePoint l.wholePoint cs (if d.digits = 0 then 1 else point)
  else placeExponent l.exponentPlus cs (point - 1)

/-- A double written in a layout. -/
def write (l : NumberLayout) (x : Float) : String :=
  match DoubleParts.ofFloat x with
  | .notANumber => l.notANumber
  | .infinite negative => if negative then l.minusInfinity else l.infinity
  | .finite b =>
    let body := l.writeDigits (Digits.shortest l.tie b)
    String.ofList (if b.negative then '-' :: body else body)

end NumberLayout

/-! ## A fixed number of places -/

/-- A double with the given number of places after the point, rounded from its exact value. -/
def writeFixed (places : Nat) (x : Float) : String :=
  match DoubleParts.ofFloat x with
  | .notANumber => "NaN"
  | .infinite negative => if negative then "-inf" else "inf"
  | .finite b =>
    let (num, den) := b.ratio
    let cs := Nat.toDigits 10 (divideToEven (num * tenTo places) den)
    let cs := List.replicate (places + 1 - cs.length) '0' ++ cs
    let body := cs.take (cs.length - places) ++
      (if places = 0 then [] else '.' :: cs.drop (cs.length - places))
    String.ofList (if b.negative then '-' :: body else body)

/-- A text moved to the right edge of a column. -/
def padLeft (width : Nat) (s : String) : String :=
  String.ofList (List.replicate (width - s.length) ' ') ++ s

/-- A text moved to the left edge of a column. -/
def padRight (width : Nat) (s : String) : String :=
  s ++ String.ofList (List.replicate (width - s.length) ' ')

end HomeClimate
