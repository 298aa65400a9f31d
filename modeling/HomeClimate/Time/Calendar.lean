/-!
# The calendar

Days are counted from the first of January 1970, which was a Thursday.  The civil
calendar is used for all years, before its introduction too.

Both directions go through a year that starts in March, so the leap day is its
last day.  Four hundred such years have 146097 days.
-/

namespace HomeClimate

/-- A day by year, month and day of the month. -/
structure CivilDate where
  /-- The year; year zero and the years before it exist. -/
  year : Int
  /-- The month, one to twelve. -/
  month : Nat
  /-- The day of the month, from one. -/
  day : Nat
  deriving Repr, DecidableEq, Inhabited

namespace CivilDate

/-- Whether a year has a leap day. -/
def isLeapYear (year : Int) : Bool :=
  year % 4 == 0 && (year % 100 != 0 || year % 400 == 0)

/-- The number of days of a month. -/
def daysInMonth (year : Int) (month : Nat) : Nat :=
  if month = 2 then if isLeapYear year then 29 else 28
  else if month = 4 ∨ month = 6 ∨ month = 9 ∨ month = 11 then 30
  else 31

/-- Whether the date exists. -/
def isValid (d : CivilDate) : Bool :=
  1 ≤ d.month && d.month ≤ 12 && 1 ≤ d.day && d.day ≤ daysInMonth d.year d.month

/-- The number of the day, counted from the first of January 1970. -/
def toDay (d : CivilDate) : Int :=
  let y : Int := if d.month ≤ 2 then d.year - 1 else d.year
  let era := y / 400
  let yearOfEra := y % 400
  let shifted := (d.month + 9) % 12
  let dayOfYear : Int := ((153 * shifted + 2) / 5 + d.day : Nat) - 1
  let dayOfEra := yearOfEra * 365 + yearOfEra / 4 - yearOfEra / 100 + dayOfYear
  era * 146097 + dayOfEra - 719468

/-- The date of a day counted from the first of January 1970. -/
def ofDay (n : Int) : CivilDate :=
  let z := n + 719468
  let era := z / 146097
  let dayOfEra := z % 146097
  let yearOfEra :=
    (dayOfEra - dayOfEra / 1460 + dayOfEra / 36524 - dayOfEra / 146096) / 365
  let dayOfYear := (dayOfEra - (365 * yearOfEra + yearOfEra / 4 - yearOfEra / 100)).toNat
  let shifted := (5 * dayOfYear + 2) / 153
  let day := dayOfYear - (153 * shifted + 2) / 5 + 1
  let month := if shifted < 10 then shifted + 3 else shifted - 9
  let year := yearOfEra + era * 400
  { year := if month ≤ 2 then year + 1 else year, month, day }

end CivilDate

/-- The days that have a date: from the first day of the year -262143 to the last of 262142. -/
def firstDay : Int := CivilDate.toDay ⟨-262143, 1, 1⟩

/-- The last day that has a date. -/
def lastDay : Int := CivilDate.toDay ⟨262142, 12, 31⟩

/-- The day of the week of a day, Monday being zero. -/
def weekday (day : Int) : Nat := ((day + 3) % 7).toNat

/-- The short names of the days of a week. -/
def weekdayNames : List String := ["Mon", "Tue", "Wed", "Thu", "Fri", "Sat", "Sun"]

/-- The short name of a day of the week. -/
def weekdayName (day : Int) : String := weekdayNames.getD (weekday day) ""

end HomeClimate
