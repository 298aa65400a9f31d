import HomeClimate.Number.Scalar

/-!
# Devices and commands

A device heats or cools.  A *command* tells it how much, as a share of what it
can do.  What a device answers changes nothing here: a command that fails has
been given all the same.
-/

namespace HomeClimate

/-- What a device does to the air. -/
inductive Mode where
  | cooling
  | heating
  deriving Repr, DecidableEq, Inhabited

/-- A mode as it is written. -/
def Mode.name : Mode → String
  | .cooling => "cooling"
  | .heating => "heating"

/-- A mode as a list of modes in a message shows it. -/
def Mode.label : Mode → String
  | .cooling => "Cooling"
  | .heating => "Heating"

/-- The mode that is written so. -/
def Mode.ofName? (s : String) : Option Mode :=
  if s = "cooling" then some .cooling else if s = "heating" then some .heating else none

/-- What a device is told to do. -/
structure Command (ν : Type) where
  /-- The mode, if it matters. -/
  mode : Option Mode
  /-- The share of its power. -/
  demand : ν
  /-- The share of its fan speed. -/
  fanSpeed : ν
  deriving BEq

variable {ν : Type} [Scalar ν]

/-- The command that stops a device. -/
def Command.off (mode : Option Mode) : Command ν := ⟨mode, 0, 0⟩

/-- What is known of a device. -/
structure Device where
  /-- What the device is called. -/
  name : String
  /-- What it can do. -/
  modes : List Mode
  deriving Repr, DecidableEq

end HomeClimate
