import HomeClimate.Number.Temperature
import HomeClimate.Schedule.Error
import HomeClimate.Text.Lowercase

/-!
# Settings as words

The settings of a period can be written as words between commas or semicolons, in
any case: `on` and `enabled`, `off` and `disabled`, `voting`, `non-voting` and
`not voting`, a setpoint, and a dump priority.  Other words mean nothing.

* A setpoint starts with one of its two words and has a number after a blank, an
  equals sign or a colon.  The number may be in Fahrenheit.  Of several setpoints
  the first counts, and one must be there.
* A dump priority starts with its word and has a whole number in one of its
  pieces.  Of several the last counts.
-/

namespace HomeClimate

variable {ν : Type} [Scalar ν]

namespace SettingsText

/-- What separates words. -/
def separatesWords (c : Char) : Bool := c = ',' || c = ';'

/-- What separates the pieces of a word. -/
def separatesPieces (c : Char) : Bool := c = ' ' || c = '=' || c = ':'

/-- The words of a text, without the blanks around them, empty ones left out. -/
def wordsOf (text : List Char) : List (List Char) :=
  ((Text.splitOn separatesWords text).map Text.trim).filter fun w => !w.isEmpty

/-- The pieces of a word. -/
def piecesOf (word : List Char) : List (List Char) := Text.words separatesPieces word

/-! ## Numbers -/

/-- Whether a character goes on a number: a digit or a point. -/
def isNumeric (c : Char) : Bool := c.isDigit || c = '.'

/-- The longest start of a text that looks like a number, and what follows. -/
def spanNumber : List Char → List Char × List Char
  | [] => ([], [])
  | c :: cs =>
    if isNumeric c || c = '-' || c = '+' then
      let (digits, rest) := cs.span isNumeric
      (c :: digits, rest)
    else ([], c :: cs)

/-- The number at the start of a text, and what follows. -/
def leadingNumber? (text : List Char) : Option (ν × List Char) :=
  let (number, rest) := spanNumber text
  match Decimal.readWord? number with
  | some (.finite d) => some (Scalar.ofDecimal d, rest)
  | _ => none

/-- The names of units that can stand alone. -/
def unitNames : List (List Char) := ["c".toList, "f".toList, "°c".toList, "°f".toList]

/-- Whether a unit is Fahrenheit. -/
def isFahrenheit (unit : List Char) : Bool := (unit.dropWhile (· = '°')).head? == some 'f'

/-- The unit of a number: what follows it, or the next piece if that is a unit. -/
def unitOf (suffix : List Char) (next : Option (List Char)) : List Char :=
  if suffix.isEmpty then (next.filter unitNames.contains).getD [] else suffix

/-- The setpoint of a word, in a text. -/
def setpoint (word text : List Char) : Except (ScheduleError ν) ν :=
  match piecesOf word with
  | _ :: value :: rest =>
    match (leadingNumber? value : Option (ν × List Char)) with
    | none => .error (.missingSetpoint (String.ofList value))
    | some (number, suffix) =>
      .ok (if isFahrenheit (unitOf suffix rest.head?) then Temperature.celsiusOfFahrenheit number
        else number)
  | _ => .error (.malformedSetpoint (String.ofList text) (String.ofList word))

/-- Digits after an optional sign, as a whole number of 32 bits. -/
def integer32? (text : List Char) : Option Int :=
  let (negative, digits) := Decimal.spanSign text
  if digits.isEmpty || !digits.all Char.isDigit then none
  else
    let n : Int := Decimal.digitsValue 0 digits
    let n := if negative then -n else n
    if fitsSigned 32 n then some n else none

/-- The dump priority of a word: the first piece that is a whole number. -/
def dumpPriority (word : List Char) : Except (ScheduleError ν) Int :=
  match (piecesOf word).findSome? integer32? with
  | some n => .ok n
  | none => .error (.badDumpPriority (String.ofList word))

/-! ## Words -/

/-- Whether a word starts with another. -/
def starts (beginning : String) (word : List Char) : Bool := beginning.toList.isPrefixOf word

/-- The settings after one more word of a text. -/
def readWord (text : List Char) (s : ZoneSettings ν) (word : List Char) :
    Except (ScheduleError ν) (ZoneSettings ν) :=
  let w := String.ofList word
  if w = "on" ∨ w = "enabled" then .ok { s with enabled := some true }
  else if w = "off" ∨ w = "disabled" then .ok { s with enabled := some false }
  else if w = "voting" then .ok { s with voting := some true }
  else if w = "non-voting" ∨ w = "not voting" then .ok { s with voting := some false }
  else if starts "setpoint" word || starts "temperature" word then
    if s.setpoint.isSome then .ok s
    else (setpoint word text).map fun v => { s with setpoint := some v }
  else if starts "dump" word then (dumpPriority word).map fun n => { s with dumpPriority := some n }
  else .ok s

/-- The settings of a text. -/
def read (text : String) : Except (ScheduleError ν) (ZoneSettings ν) := do
  let words := Text.lowercase (Text.trim text.toList)
  let s ← (wordsOf words).foldlM (readWord words) {}
  if s.setpoint.isNone then throw (.missingSetpoint (String.ofList words))
  return s

end SettingsText

end HomeClimate
