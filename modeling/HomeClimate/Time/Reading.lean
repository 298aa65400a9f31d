import HomeClimate.Number.Decimal
import HomeClimate.Time.TimeOfDay

/-!
# Reading times

A *pattern* is a list of fields.  It is matched from the front of a text, field
by field, and the whole text must be used.

* A number skips blanks before it and takes one digit at least, and at most two;
  a year takes four, or any number of digits after a sign.
* A blank in a pattern stands for any blanks, none included.
* A fraction is optional.  With its point it needs a digit, and digits after the
  ninth are passed over.
* The half of the day is two letters in any case.
* A second may be sixty, which is the leap second after second fifty-nine.

`readInstant?` is the looser form for whole instants: blanks are allowed around
the separators, and the zone is an offset or one of its names.
-/

namespace HomeClimate

/-! ## Fields -/

/-- One part of a pattern. -/
inductive TimeField where
  /-- This very character. -/
  | mark (c : Char)
  /-- Any blanks. -/
  | blanks
  | year
  | month
  | day
  /-- The hour of a day of twenty-four. -/
  | hour
  /-- The hour of a half day of twelve. -/
  | halfHour
  | minute
  | second
  /-- A fraction of a second, or nothing. -/
  | fraction
  /-- Which half of the day. -/
  | half
  deriving Repr, DecidableEq

/-- What the fields of a pattern have given so far. -/
structure TimeParts where
  year : Int := 1970
  month : Nat := 1
  day : Nat := 1
  hour : Nat := 0
  /-- Whether the hour counts from noon. -/
  afternoon : Bool := false
  minute : Nat := 0
  second : Nat := 0
  nano : Nat := 0
  deriving Repr

namespace TimeParts

/-- The time of day, where second sixty is a leap second. -/
def time (p : TimeParts) : TimeOfDay :=
  let hour := if p.afternoon then p.hour + 12 else p.hour
  if p.second = 60 then .ofClock hour p.minute 59 (Span.perSecond + p.nano)
  else .ofClock hour p.minute p.second p.nano

/-- The date. -/
def date (p : TimeParts) : CivilDate := ⟨p.year, p.month, p.day⟩

/-- The day, if the date exists and is in range. -/
def day? (p : TimeParts) : Option Int :=
  let d := p.date.toDay
  if p.date.isValid && firstDay ≤ d && d ≤ lastDay then some d else none

end TimeParts

namespace TimeField

/-- Up to so many digits at the front of a text, at least `least` of them. -/
def digits? (least most : Nat) (cs : List Char) : Option (Nat × List Char) :=
  let run := (cs.take most).takeWhile Char.isDigit
  if run.length < least then none else some (Decimal.digitsValue 0 run, cs.drop run.length)

/-- A number within bounds, after any blanks. -/
def number? (low high : Nat) (cs : List Char) : Option (Nat × List Char) := do
  let (n, rest) ← digits? 1 2 (Text.trimStart cs)
  if low ≤ n ∧ n ≤ high then some (n, rest) else none

/-- A year: four digits at most, or any number of them after a sign. -/
def year? (cs : List Char) : Option (Int × List Char) :=
  match Text.trimStart cs with
  | '-' :: rest => (digits? 1 rest.length rest).map fun (n, rest) => (-(n : Int), rest)
  | '+' :: rest => (digits? 1 rest.length rest).map fun (n, rest) => ((n : Int), rest)
  | rest => (digits? 1 4 rest).map fun (n, rest) => ((n : Int), rest)

/-- The digits after a point as nanoseconds, those after the ninth passed over. -/
def nanos? (cs : List Char) : Option (Nat × List Char) :=
  let run := cs.takeWhile Char.isDigit
  let used := run.take 9
  if run.isEmpty then none
  else some (Decimal.digitsValue 0 used * tenTo (9 - used.length), cs.drop run.length)

/-- A fraction of a second, if there is a point. -/
def fraction? : List Char → Option (Nat × List Char)
  | '.' :: cs => nanos? cs
  | cs => some (0, cs)

/-- The half of the day: whether it is the afternoon. -/
def half? : List Char → Option (Bool × List Char)
  | a :: b :: cs =>
    if b.toLower ≠ 'm' then none
    else if a.toLower = 'a' then some (false, cs)
    else if a.toLower = 'p' then some (true, cs)
    else none
  | _ => none

/-- One field read off the front of a text. -/
def read? (f : TimeField) (p : TimeParts) (cs : List Char) : Option (TimeParts × List Char) :=
  match f with
  | .mark c => match cs with
    | d :: rest => if d = c then some (p, rest) else none
    | [] => none
  | .blanks => some (p, Text.trimStart cs)
  | .year => (year? cs).map fun (n, rest) => ({ p with year := n }, rest)
  | .month => (number? 1 12 cs).map fun (n, rest) => ({ p with month := n }, rest)
  | .day => (number? 1 31 cs).map fun (n, rest) => ({ p with day := n }, rest)
  | .hour => (number? 0 23 cs).map fun (n, rest) => ({ p with hour := n }, rest)
  | .halfHour => (number? 1 12 cs).map fun (n, rest) => ({ p with hour := n % 12 }, rest)
  | .minute => (number? 0 59 cs).map fun (n, rest) => ({ p with minute := n }, rest)
  | .second => (number? 0 60 cs).map fun (n, rest) => ({ p with second := n }, rest)
  | .fraction => (fraction? cs).map fun (n, rest) => ({ p with nano := n }, rest)
  | .half => (half? cs).map fun (b, rest) => ({ p with afternoon := b }, rest)

end TimeField

/-! ## Patterns -/

/-- The fields of a text, in order. -/
abbrev TimePattern := List TimeField

namespace TimePattern

/-- The fields read off the front of a text, and what is left. -/
def readFront? : TimePattern → TimeParts → List Char → Option (TimeParts × List Char)
  | [], p, cs => some (p, cs)
  | f :: fs, p, cs => do
    let (p, rest) ← f.read? p cs
    readFront? fs p rest

/-- The parts of a whole text. -/
def read? (pattern : TimePattern) (cs : List Char) : Option TimeParts := do
  let (p, rest) ← pattern.readFront? {} cs
  if rest.isEmpty then some p else none

end TimePattern

/-! ## Offsets -/

/-- Two digits at the front of a text. -/
def twoDigits? (cs : List Char) : Option (Nat × List Char) := TimeField.digits? 2 2 cs

/-- A time zone offset in seconds, where `separator?` reads what stands between its parts. -/
def readOffset? (separator? : List Char → Option (List Char)) :
    List Char → Option (Int × List Char)
  | [] => none
  | c :: cs =>
    if c = 'Z' ∨ c = 'z' then some (0, cs)
    else if c = '+' ∨ c = '-' ∨ c = '−' then do
      let (hours, rest) ← twoDigits? cs
      let rest ← separator? rest
      let (minutes, rest) ← twoDigits? rest
      if 59 < minutes then none
      else
        let n : Int := (hours * 3600 + minutes * 60 : Nat)
        some (if c = '+' then n else -n, rest)
    else none

/-- Exactly one colon. -/
def colon? : List Char → Option (List Char)
  | ':' :: cs => some cs
  | _ => none

/-- Any number of colons and blanks. -/
def colonsAndBlanks? (cs : List Char) : Option (List Char) :=
  some (cs.dropWhile fun c => c = ':' || Text.isBlank c)

/-- The mark between a date and a time of day. -/
def dateTimeMark? : List Char → Option (List Char)
  | c :: cs => if c = 'T' ∨ c = 't' ∨ c = ' ' then some cs else none
  | [] => none

/-- A number of exactly so many digits, within bounds. -/
def exactNumber? (width low high : Nat) (cs : List Char) : Option (Nat × List Char) := do
  let (n, rest) ← TimeField.digits? width width cs
  if low ≤ n ∧ n ≤ high then some (n, rest) else none

/-- This very character at the front of a text. -/
def exactMark? (c : Char) : List Char → Option (List Char)
  | d :: cs => if d = c then some cs else none
  | [] => none

/-- A whole date and time of day with an offset, every number at its full width.  The time of day
is the one that is written. -/
def readStrictTime? (cs : List Char) : Option TimeOfDay := do
  let (year, cs) ← exactNumber? 4 0 9999 cs
  let cs ← exactMark? '-' cs
  let (month, cs) ← exactNumber? 2 1 12 cs
  let cs ← exactMark? '-' cs
  let (day, cs) ← exactNumber? 2 1 31 cs
  let cs ← dateTimeMark? cs
  let (hour, cs) ← exactNumber? 2 0 23 cs
  let cs ← exactMark? ':' cs
  let (minute, cs) ← exactNumber? 2 0 59 cs
  let cs ← exactMark? ':' cs
  let (second, cs) ← exactNumber? 2 0 60 cs
  let (nano, cs) ← TimeField.fraction? cs
  let (offset, cs) ← readOffset? colon? cs
  let parts : TimeParts := { year, month, day, hour, minute, second, nano }
  let _ ← parts.day?
  if cs.isEmpty ∧ offset.natAbs < secondsPerDay then some parts.time else none

/-- The date of an instant, blanks allowed before its separators. -/
def looseDate : TimePattern :=
  [.year, .blanks, .mark '-', .month, .blanks, .mark '-', .day]

/-- The time of day of an instant, blanks allowed before its separators. -/
def looseTime : TimePattern :=
  [.hour, .blanks, .mark ':', .minute, .blanks, .mark ':', .second, .fraction, .blanks]

/-- The offset of an instant, or the name of universal time. -/
def readZone? (cs : List Char) : Option (Int × List Char) :=
  if (cs.take 3).map Char.toLower = ['u', 't', 'c'] then some (0, cs.drop 3)
  else readOffset? colonsAndBlanks? cs

/-- A whole instant: the written date and time of day less the offset. -/
def readInstant? (s : String) : Option Instant := do
  let (parts, cs) ← looseDate.readFront? {} s.toList
  let cs ← dateTimeMark? cs
  let (parts, cs) ← looseTime.readFront? parts cs
  let (offset, cs) ← readZone? cs
  let day ← parts.day?
  let second := (parts.time.second : Int) - offset
  let instant : Instant :=
    ⟨day + second / secondsPerDay, ⟨(second % secondsPerDay).toNat, parts.time.nano⟩⟩
  if (Text.trimStart cs).isEmpty ∧ offset.natAbs < secondsPerDay ∧ instant.isRepresentable then
    some instant
  else none

/-! ## Local times -/

/-- A date before a time of day, and what stands between them. -/
def dateBefore (mark : TimeField) : TimePattern := [.year, .mark '-', .month, .mark '-', .day, mark]

/-- The ways to write a local time: with a mark or a blank before the time of day, which may leave
out its seconds. -/
def localPatterns : List TimePattern :=
  let long : TimePattern := [.hour, .mark ':', .minute, .mark ':', .second]
  let short : TimePattern := [.hour, .mark ':', .minute]
  [dateBefore (.mark 'T') ++ long, dateBefore (.mark 'T') ++ short,
   dateBefore .blanks ++ long, dateBefore .blanks ++ short]

/-- A whole local time. -/
def readLocalTime? (s : String) : Option Instant :=
  localPatterns.findSome? fun p => do
    let parts ← p.read? s.toList
    let day ← parts.day?
    some ⟨day, parts.time⟩

end HomeClimate
