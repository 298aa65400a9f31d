import HomeClimate.Document.Json
import HomeClimate.House.Error
import HomeClimate.Signal.Basic
import HomeClimate.Time.Reading

/-!
# Recorded readings

A recorded reading is what a sensor said at an instant.  One without a value is a
failure of the sensor, and may say what it was.

Readings are recorded one a line, as records in JSON.  A blank line and a line
that starts with a number sign hold none.  Lines are counted from one.
-/

namespace HomeClimate

/-- What a sensor said. -/
structure Reading (ν : Type) where
  /-- When it said so. -/
  time : Instant
  /-- What the sensor is called. -/
  source : String
  /-- The value, if there is one. -/
  value : Option ν
  /-- What was wrong, if there is no value. -/
  error : Option String

namespace Reading

/-- The reading as a signal.  A value wins over an error. -/
def signal {ν : Type} (r : Reading ν) : Signal ν :=
  match r.value with
  | some v => .healthy r.time v (some r.source)
  | none => .failure r.time (some r.source) (.sensor (r.error.getD "no value"))

/-! ## Reading -/

/-- The instant of a document. -/
def instantOf? (d : Document) : Option Instant := d.asText?.bind readInstant?

/-- The reading of a record. -/
def ofDocument? (d : Document) : Option (Reading Float) := do
  let f ← d.fields? ["at", "source", "value", "error"] false
  let time ← f.required? "at" instantOf?
  let source ← f.required? "source" Document.asText?
  let value ← f.optional? "value" Document.asDouble?
  let error ← f.optional? "error" Document.asText?
  return { time, source, value, error }

/-- Whether a line holds no reading. -/
def isPassedOver (line : List Char) : Bool :=
  match Text.trimStart line with
  | [] => true
  | c :: _ => c = '#'

/-- The reading of a line of a number. -/
def ofLine (line : List Char) (number : Nat) : Except (HouseError Float) (Reading Float) :=
  match (Json.read? (String.ofList line)).bind ofDocument? with
  | some r => .ok r
  | none => .error (.badReading number)

/-- The readings of a text, in order. -/
def ofText (text : String) : Except (HouseError Float) (List (Reading Float)) :=
  let numbered := (Text.lines text.toList).zipIdx 1
  (numbered.filter fun e => !isPassedOver e.1).mapM fun e => ofLine e.1 e.2

end Reading

end HomeClimate
