import HomeClimate.Number.Layout
import HomeClimate.Text.Quoted
import HomeClimate.Time.Text

/-!
# Faults

A *fault* is a state that a part of the system must not get into.  It is not an
error that a caller can mend: the part stops where it is.

* A controller is given a sample that is not later than the one before.
* A window of samples is given a time that is not later than the last one.
* A control signal turns out to be no number.
* A time leaves the calendar, or a setting is too long for a span of time.

A part that others share is left as it was when the fault came.  What was done to
it is an `Attempt`: the state that is left, and the answer or the fault.
-/

namespace HomeClimate

/-- A state that must not be reached, over scalars `ν`. -/
inductive Fault (ν : Type) where
  /-- A controller went back in time. -/
  | backInTime (name : String) (last now : Instant)
  /-- A window of samples went back in time. -/
  | outOfSequence (last now : Instant)
  /-- The control signal is no number. -/
  | noSignal (name : String) (p i d : ν)
  /-- A time or a span does not exist. -/
  | outOfRange
  deriving Repr

/-- A fault as a text. -/
def Fault.message : Fault Float → String
  | .backInTime name last now =>
    name ++ ": can't go back in time: last sample @" ++ last.text ++ ", this one @" ++ now.text
  | .outOfSequence last now =>
    "data element out of sequence: last key is " ++ last.text ++ ", key being added is " ++ now.text
  | .noSignal name p i d =>
    let shown := NumberLayout.precise.write
    name ++ ": signal is NaN, components: " ++
      Text.showRecord "PidTerms" [("p", shown p), ("i", shown i), ("d", shown d)]
  | .outOfRange => "out of range"

/-- What was done to a part: the part as it is left, and its answer or the fault that came. -/
abbrev Attempt (ν σ α : Type) := σ × Except (Fault ν) α

/-- The part and its answer, or the fault alone. -/
def Attempt.complete {ν σ α : Type} (a : Attempt ν σ α) : Except (Fault ν) (σ × α) :=
  a.2.map fun x => (a.1, x)

end HomeClimate
