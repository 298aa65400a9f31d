import HomeClimate.Time.Calendar
import HomeClimate.Time.Span

/-!
# Times of day and instants

A *time of day* is a second of the day and nanoseconds in it.  A leap second is
the second before it with a thousand million nanoseconds more, so it comes after
that second and before the next.  An *instant* is a day with a time of day, in
universal time; local time is universal time here.

Both are ordered part by part.  Subtraction follows a rule of its own for leap
seconds, which are counted only when they lie between the two times of day.

* `TimeOfDay.since`: the later time less the earlier, one second more if the
  earlier one is a leap second, and the other way round.
* `Instant.since`: whole days, and the difference of the times of day.
* `TimeOfDay.add`: a leap second is left before a whole second is added.

Without leap seconds these are plain arithmetic on nanoseconds.
-/

namespace HomeClimate

/-! ## Times of day -/

/-- A time of day. -/
structure TimeOfDay where
  /-- The second of the day, below 86400. -/
  second : Nat
  /-- Nanoseconds into the second, a thousand million more in a leap second. -/
  nano : Nat
  deriving Repr, DecidableEq, Inhabited

/-- Seconds in a day. -/
def secondsPerDay : Nat := 86400

/-- Nanoseconds in a day. -/
def nanosPerDay : Nat := secondsPerDay * Span.perSecond

namespace TimeOfDay

/-- Midnight, where the day begins. -/
def midnight : TimeOfDay := ⟨0, 0⟩

/-- A time of day by hour, minute and second. -/
def ofClock (hour minute second nano : Nat) : TimeOfDay :=
  ⟨hour * 3600 + minute * 60 + second, nano⟩

/-- Whether this is inside a leap second. -/
def isLeap (t : TimeOfDay) : Bool := Span.perSecond ≤ t.nano

/-- Whether the parts are in range. -/
def isValid (t : TimeOfDay) : Bool := t.second < secondsPerDay && t.nano < 2 * Span.perSecond

/-- The hour. -/
def hour (t : TimeOfDay) : Nat := t.second / 3600

/-- The minute of the hour. -/
def minute (t : TimeOfDay) : Nat := t.second / 60 % 60

/-- The second of the minute, where a leap second does not count as one more. -/
def secondOfMinute (t : TimeOfDay) : Nat := t.second % 60

/-- One time of day is before another. -/
protected def lt (a b : TimeOfDay) : Prop :=
  a.second < b.second ∨ a.second = b.second ∧ a.nano < b.nano

/-- One time of day is at or before another. -/
protected def le (a b : TimeOfDay) : Prop :=
  a.second < b.second ∨ a.second = b.second ∧ a.nano ≤ b.nano

instance : LT TimeOfDay := ⟨TimeOfDay.lt⟩
instance : LE TimeOfDay := ⟨TimeOfDay.le⟩
instance (a b : TimeOfDay) : Decidable (a < b) :=
  inferInstanceAs (Decidable (a.second < b.second ∨ a.second = b.second ∧ a.nano < b.nano))
instance (a b : TimeOfDay) : Decidable (a ≤ b) :=
  inferInstanceAs (Decidable (a.second < b.second ∨ a.second = b.second ∧ a.nano ≤ b.nano))

theorem lt_iff {a b : TimeOfDay} :
    a < b ↔ a.second < b.second ∨ a.second = b.second ∧ a.nano < b.nano := Iff.rfl

theorem le_iff {a b : TimeOfDay} :
    a ≤ b ↔ a.second < b.second ∨ a.second = b.second ∧ a.nano ≤ b.nano := Iff.rfl

theorem not_lt {a b : TimeOfDay} : ¬ a < b ↔ b ≤ a := by
  rw [le_iff, lt_iff]; omega

/-- Nanoseconds from one time of day to another, negative if it is later. -/
def since (a b : TimeOfDay) : Int :=
  let leap : Int :=
    if b.second < a.second ∧ b.isLeap then 1
    else if a.second < b.second ∧ a.isLeap then -1
    else 0
  ((a.second : Int) - b.second + leap) * Span.perSecond + ((a.nano : Int) - b.nano)

/-- Nanoseconds after midnight as a time of day, and the days that they make. -/
def ofNanos (n : Int) : TimeOfDay × Int :=
  let seconds := n / Span.perSecond
  (⟨(seconds % secondsPerDay).toNat, (n % Span.perSecond).toNat⟩, seconds / secondsPerDay)

/-- Nanoseconds added to a time of day, and the days that this carries over. -/
def add (t : TimeOfDay) (d : Int) : TimeOfDay × Int :=
  let wholeSeconds := Int.tdiv d Span.perSecond
  let rest := Int.tmod d Span.perSecond
  let plain : Int := t.second * (Span.perSecond : Int) + t.nano + d
  if t.isLeap then
    if 0 < wholeSeconds ∨ 2 * (Span.perSecond : Int) ≤ t.nano + rest then
      ofNanos (plain - Span.perSecond)
    else if wholeSeconds < 0 then ofNanos plain
    else (⟨t.second, (t.nano + rest).toNat⟩, 0)
  else ofNanos plain

end TimeOfDay

/-! ## Instants -/

/-- A point in time. -/
structure Instant where
  /-- The day, counted from the first of January 1970. -/
  day : Int
  /-- The time of the day. -/
  time : TimeOfDay
  deriving Repr, DecidableEq, Inhabited

namespace Instant

/-- The instant some seconds and nanoseconds after the start of 1970. -/
def ofEpoch (seconds : Int) (nano : Nat) : Instant :=
  ⟨seconds / secondsPerDay, ⟨(seconds % secondsPerDay).toNat, nano⟩⟩

/-- The instant some nanoseconds after the start of 1970, with no leap second. -/
def ofNanos (n : Int) : Instant := ofEpoch (n / Span.perSecond) (n % Span.perSecond).toNat

/-- The second since the start of 1970 that the instant is in. -/
def epochSecond (t : Instant) : Int := t.day * secondsPerDay + t.time.second

/-- Whether the day has a date. -/
def isRepresentable (t : Instant) : Bool := firstDay ≤ t.day && t.day ≤ lastDay

/-- One instant is before another. -/
protected def lt (a b : Instant) : Prop := a.day < b.day ∨ a.day = b.day ∧ a.time < b.time

/-- One instant is at or before another. -/
protected def le (a b : Instant) : Prop := a.day < b.day ∨ a.day = b.day ∧ a.time ≤ b.time

instance : LT Instant := ⟨Instant.lt⟩
instance : LE Instant := ⟨Instant.le⟩
instance (a b : Instant) : Decidable (a < b) :=
  inferInstanceAs (Decidable (a.day < b.day ∨ a.day = b.day ∧ a.time < b.time))
instance (a b : Instant) : Decidable (a ≤ b) :=
  inferInstanceAs (Decidable (a.day < b.day ∨ a.day = b.day ∧ a.time ≤ b.time))

theorem lt_iff {a b : Instant} : a < b ↔ a.day < b.day ∨ a.day = b.day ∧ a.time < b.time := Iff.rfl

theorem le_iff {a b : Instant} : a ≤ b ↔ a.day < b.day ∨ a.day = b.day ∧ a.time ≤ b.time := Iff.rfl

theorem not_le {a b : Instant} : ¬ a ≤ b ↔ b < a := by
  rw [le_iff, lt_iff, TimeOfDay.le_iff, TimeOfDay.lt_iff]; omega

theorem not_lt {a b : Instant} : ¬ a < b ↔ b ≤ a := by
  rw [le_iff, lt_iff, TimeOfDay.le_iff, TimeOfDay.lt_iff]; omega

/-- Nanoseconds from an earlier instant to this one, negative if it is later. -/
def since (a b : Instant) : Int := (a.day - b.day) * nanosPerDay + a.time.since b.time

/-- The span from an earlier instant to this one, nothing if it is later. -/
def spanSince (a b : Instant) : Span := Span.ofDifference (a.since b)

/-- The instant some nanoseconds later, if its day has a date. -/
def add? (t : Instant) (d : Int) : Option Instant :=
  let (time, days) := t.time.add d
  let moved : Instant := ⟨t.day + days, time⟩
  if moved.isRepresentable then some moved else none

/-- The instant some nanoseconds earlier, if its day has a date. -/
def sub? (t : Instant) (d : Int) : Option Instant := t.add? (-d)

end Instant

end HomeClimate
