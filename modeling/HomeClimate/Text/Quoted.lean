import HomeClimate.Text.PrintTables

/-!
# Quoted texts

A message shows a text between quotes.  A quote and a backslash are written with
a backslash before them, and so are the four control characters that have a
letter.  Any other character that is not shown as it is is written by its number.
-/

namespace HomeClimate.Text

/-- The digits of a number in base sixteen, in small letters. -/
def hexDigits (n : Nat) : List Char := Nat.toDigits 16 n

/-- Whether a character is shown by number. -/
def isHidden (c : Char) : Bool :=
  let n := c.toNat
  if n < 127 then n < 32
  else n == 127 || hiddenRanges.any fun r => r.1 ≤ n && n ≤ r.2

/-- One character of a quoted text. -/
def quoteChar (c : Char) : List Char :=
  if c = '"' then ['\\', '"']
  else if c = '\\' then ['\\', '\\']
  else if c = '\n' then ['\\', 'n']
  else if c = '\r' then ['\\', 'r']
  else if c = '\t' then ['\\', 't']
  else if c.toNat = 0 then ['\\', '0']
  else if isHidden c then ['\\', 'u', '\x7b'] ++ hexDigits c.toNat ++ ['\x7d']
  else [c]

/-- A text between quotes. -/
def quote (s : String) : String :=
  String.ofList ('"' :: s.toList.flatMap quoteChar ++ ['"'])

/-- A value that may be absent, as a message shows it. -/
def showOption {α : Type} (shown : α → String) : Option α → String
  | none => "None"
  | some a => "Some(" ++ shown a ++ ")"

/-- A truth value, as a message shows it. -/
def showBool (b : Bool) : String := if b then "true" else "false"

/-- A record with named fields, as a message shows it. -/
def showRecord (name : String) (fields : List (String × String)) : String :=
  let shown := fields.map fun f => f.1 ++ ": " ++ f.2
  name ++ " \x7b " ++ ", ".intercalate shown ++ " \x7d"

/-- A list, as a message shows it. -/
def showList (items : List String) : String := "[" ++ ", ".intercalate items ++ "]"

/-- The value of a hexadecimal digit. -/
def hexValue? (c : Char) : Option Nat :=
  let n := c.toNat
  if 48 ≤ n ∧ n ≤ 57 then some (n - 48)
  else if 97 ≤ n ∧ n ≤ 102 then some (n - 87)
  else if 65 ≤ n ∧ n ≤ 70 then some (n - 55)
  else none

end HomeClimate.Text
