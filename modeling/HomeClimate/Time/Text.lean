import HomeClimate.Time.TimeOfDay

/-!
# Texts of times

An instant is written as a date, a time of day and the name of its time zone, and
more tersely in a document.  A local time is written without the zone.  The
fraction of a second has three, six or nine digits, the fewest that lose nothing,
and a leap second is written as second sixty.
-/

namespace HomeClimate

/-- A number with leading zeros up to a width. -/
def padZero (width n : Nat) : String :=
  let cs := Nat.toDigits 10 n
  String.ofList (List.replicate (width - cs.length) '0' ++ cs)

namespace TimeOfDay

/-- The fraction of a second, with its point, or nothing. -/
def fractionText (nano : Nat) : String :=
  if nano = 0 then ""
  else if nano % 1000000 = 0 then "." ++ padZero 3 (nano / 1000000)
  else if nano % 1000 = 0 then "." ++ padZero 6 (nano / 1000)
  else "." ++ padZero 9 nano

/-- Hours and minutes. -/
def shortText (t : TimeOfDay) : String := padZero 2 t.hour ++ ":" ++ padZero 2 t.minute

/-- The second as it is written: a leap second is one more. -/
def writtenSecond (t : TimeOfDay) : Nat := t.secondOfMinute + if t.isLeap then 1 else 0

/-- Hours, minutes and seconds. -/
def clockText (t : TimeOfDay) : String := t.shortText ++ ":" ++ padZero 2 t.writtenSecond

/-- Hours, minutes, seconds and their fraction. -/
def text (t : TimeOfDay) : String := t.clockText ++ fractionText (t.nano % Span.perSecond)

end TimeOfDay

namespace CivilDate

/-- A year of four digits, or with a sign when four are not enough or it is negative. -/
def yearText (year : Int) : String :=
  if 0 ≤ year ∧ year ≤ 9999 then padZero 4 year.natAbs
  else (if year < 0 then "-" else "+") ++ padZero 4 year.natAbs

/-- Year, month and day. -/
def text (d : CivilDate) : String :=
  yearText d.year ++ "-" ++ padZero 2 d.month ++ "-" ++ padZero 2 d.day

end CivilDate

namespace Instant

/-- The date and the time of day. -/
def localText (t : Instant) : String := (CivilDate.ofDay t.day).text ++ " " ++ t.time.text

/-- The date and the time of day in the form that documents have. -/
def documentText (t : Instant) : String := (CivilDate.ofDay t.day).text ++ "T" ++ t.time.text ++ "Z"

/-- The date, the time of day and the time zone. -/
def text (t : Instant) : String := t.localText ++ " UTC"

end Instant

end HomeClimate
