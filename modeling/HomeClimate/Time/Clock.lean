import HomeClimate.Time.TimeOfDay

/-!
# The clock

A clock shows an instant until it is set or advanced.  A span that is too long
for a difference of instants does not move it.  One that would take it out of the
calendar is refused.
-/

namespace HomeClimate

/-- What a clock shows. -/
structure Clock where
  /-- The instant of now. -/
  now : Instant
  deriving Repr, DecidableEq

namespace Clock

/-- The clock set to an instant. -/
def set (_ : Clock) (now : Instant) : Clock := ⟨now⟩

/-- The clock some time later, or none if that is out of the calendar. -/
def advance? (c : Clock) (by_ : Span) : Option Clock :=
  match by_.toDifference? with
  | none => some c
  | some d => (c.now.add? d).map Clock.mk

end Clock

end HomeClimate
