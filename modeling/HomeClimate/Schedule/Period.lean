import HomeClimate.Schedule.Error
import HomeClimate.Table
import HomeClimate.Time.Reading

/-!
# Periods

A *period* is a window of time on some days of the week.  When it starts later in
the day than it ends, it goes over midnight, and its days are those on which it
starts.

Periods are ordered by their start, and of those that start together the longer
comes first.  The period in effect is the last in this order among those that
match, so a period inside another of the same day overrides it.  The name, the
days and the id break ties, so outside leap seconds no two different periods are
equal in the order.
-/

namespace HomeClimate

/-- A window of time on some days of the week. -/
structure Period where
  /-- What tells it from others. -/
  id : String
  /-- What it is called. -/
  name : String
  /-- When it starts. -/
  start : TimeOfDay
  /-- When it ends; this time is not in it. -/
  stop : TimeOfDay
  /-- Its days, Monday being the lowest bit. -/
  days : Nat
  deriving Repr, DecidableEq, Inhabited

namespace Period

variable {ν : Type}

/-- The number of masks for the days of a week. -/
def dayMasks : Nat := 128

/-- A period with a name, that is not empty. -/
def create (id name : String) (start stop : TimeOfDay) (days : Nat) :
    Except (ScheduleError ν) Period :=
  if Text.isBlankText name then .error .emptyName
  else if start = stop then .error (.sameStartEnd start)
  else if dayMasks ≤ days then .error .tooManyDays
  else .ok ⟨id, name, start, stop, days⟩

/-! ## Reading -/

/-- The ways to write a time of day, in the order in which they are tried. -/
def timePatterns : List TimePattern :=
  [[.hour, .mark ':', .minute],
   [.hour, .mark ':', .minute, .mark ':', .second],
   [.hour, .mark ':', .minute, .mark ':', .second, .fraction],
   [.hour, .minute],
   [.halfHour, .mark ':', .minute, .half],
   [.halfHour, .mark ':', .minute, .blanks, .half]]

/-- A date before a time of day. -/
def datePattern : TimePattern := [.year, .mark '-', .month, .mark '-', .day, .mark 'T']

/-- The ways to write a date and a time of day with no zone. -/
def dateTimePatterns : List TimePattern :=
  [datePattern ++ [.hour, .mark ':', .minute, .mark ':', .second, .fraction],
   datePattern ++ [.hour, .mark ':', .minute, .mark ':', .second],
   datePattern ++ [.hour, .mark ':', .minute]]

/-- The time of day of a text in one of the ways. -/
def timeIn? (cs : List Char) (patterns : List TimePattern) : Option TimeOfDay :=
  patterns.findSome? fun p => (p.read? cs).map TimeParts.time

/-- The time of day of a text with a date, which must exist. -/
def dateTimeIn? (cs : List Char) (patterns : List TimePattern) : Option TimeOfDay :=
  patterns.findSome? fun p => do
    let parts ← p.read? cs
    let _ ← parts.day?
    some parts.time

/-- A time of day in any of the ways to write it. -/
def readTime (text : String) : Except (ScheduleError ν) TimeOfDay :=
  let cs := Text.trim text.toList
  match timeIn? cs timePatterns with
  | some t => .ok t
  | none =>
    match readStrictTime? cs with
    | some t => .ok t
    | none =>
      match dateTimeIn? cs dateTimePatterns with
      | some t => .ok t
      | none => .error (.badTime (String.ofList cs))

/-- The mask of some marks for days, the first being the lowest bit.  A blank marks no day. -/
def dayMask : List Char → Nat
  | [] => 0
  | c :: cs => (if c = ' ' then 0 else 1) + 2 * dayMask cs

/-- The days of a week, seven characters from Monday on. -/
def readDays (days : String) : Except (ScheduleError ν) Nat :=
  if days.toList.length = 7 then .ok (dayMask days.toList) else .error (.malformedDays days)

/-- A period out of texts. -/
def read (id name start stop days : String) : Except (ScheduleError ν) Period := do
  if Text.isBlankText name then throw .emptyName
  create id name (← readTime start) (← readTime stop) (← readDays days)

/-! ## Matching -/

/-- Whether the period stays within a day. -/
def isSameDay (p : Period) : Bool := decide (p.start < p.stop)

/-- Whether the period goes over midnight. -/
def isAcrossMidnight (p : Period) : Bool := decide (p.stop < p.start)

/-- The length of the period in nanoseconds. -/
def duration (p : Period) : Int :=
  let raw := p.stop.since p.start
  if raw < 0 then raw + nanosPerDay else raw

/-- Whether a time of day is in the period, on whatever day. -/
def includes (p : Period) (t : TimeOfDay) : Bool :=
  if p.isSameDay then decide (p.start ≤ t) && decide (t < p.stop)
  else decide (p.start ≤ t) || decide (t < p.stop)

/-- Whether a day is one of the days of the period. -/
def includesDay (p : Period) (day : Int) : Bool := p.days.testBit (weekday day)

/-- The day on which the period started that is in effect at a local time.  After midnight that is
the day before. -/
def startDay (p : Period) (at_ : Instant) : Int :=
  if p.isAcrossMidnight && decide (at_.time < p.stop) then at_.day - 1 else at_.day

/-- Whether the period is in effect at a local time. -/
def isInEffect (p : Period) (at_ : Instant) : Bool :=
  let day := p.startDay at_
  p.includes at_.time && decide (firstDay ≤ day) && p.includesDay day

/-! ## Order -/

/-- The order of two times of day. -/
def compareTimes (a b : TimeOfDay) : Ordering :=
  (compare a.second b.second).then (compare a.nano b.nano)

/-- The order of periods. -/
def order (a b : Period) : Ordering :=
  (compareTimes a.start b.start).then
    ((compare b.duration a.duration).then
      ((compare a.name b.name).then ((compare a.days b.days).then (compare a.id b.id))))

instance : Ord Period := ⟨order⟩

/-! ## Text -/

/-- A time of day without its seconds, if it has none. -/
def timeText (t : TimeOfDay) : String :=
  if t.secondOfMinute = 0 ∧ t.nano = 0 then t.shortText else t.clockText

/-- The letters of the days, from Monday on. -/
def dayLetters : List Char := "MTWTFSS".toList

/-- The days of a mask, a point for a day that is not marked. -/
def daysText (days : Nat) : String :=
  String.ofList (dayLetters.zipIdx.map fun (c, i) => if days.testBit i then c else '.')

/-- The period as a text. -/
def text (p : Period) : String :=
  p.name ++ " (" ++ timeText p.start ++ " to " ++ timeText p.stop ++ " on " ++
    daysText p.days ++ ")"

end Period

/-! ## Schedules -/

/-- The periods of a zone, each with what it stands for, in order. -/
abbrev ScheduleOf (α : Type) := Table Period α

/-- The period in effect at a local time: the last in order of those that match. -/
def bestMatch? {α : Type} (schedule : ScheduleOf α) (at_ : Instant) : Option (Period × α) :=
  schedule.reverse.find? fun e => e.1.isInEffect at_

end HomeClimate
