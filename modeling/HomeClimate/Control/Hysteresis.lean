import HomeClimate.Control.Basic

/-!
# The hysteresis controller

Two states, on and off.  Off becomes on when the sample less the high threshold
is at or above the setpoint.  On becomes off when the sample less the low
threshold, which is negative, is at or below it.  The control signal is one when
on and minus one when off.
-/

namespace HomeClimate

variable {ν : Type} [Scalar ν]

/-- A controller with two states. -/
structure Hysteresis (ν : Type) where
  /-- The name, the setpoint and the last sample. -/
  loop : ControlLoop ν
  /-- How far below the setpoint it goes off; negative. -/
  low : ν
  /-- How far above the setpoint it goes on; positive. -/
  high : ν
  /-- Whether it is on. -/
  isOn : Bool

/-- What a hysteresis controller says about a sample: the sample itself. -/
abbrev HysteresisStatus (ν : Type) := ControlStatus ν ν

/-- The detail of a status as a text. -/
def hysteresisDetailText (sample : Float) : String :=
  Text.showRecord "HysteresisSample" [("sample", NumberLayout.precise.write sample)]

namespace Hysteresis

/-- A controller that is off. -/
def create (name : String) (setpoint low high : ν) : Except (ControlError ν) (Hysteresis ν) := do
  ensureFinite .lowThreshold low
  ensureFinite .highThreshold high
  if 0 ≤ low then throw (.lowNotNegative low)
  if high ≤ 0 then throw (.highNotPositive high)
  let loop ← ControlLoop.create name setpoint
  return ⟨loop, low, high, false⟩

/-- A controller with thresholds equally far from the setpoint. -/
def symmetric (name : String) (setpoint band : ν) : Except (ControlError ν) (Hysteresis ν) :=
  create name setpoint (-band) band

/-- The controller with another setpoint. -/
def setSetpoint (c : Hysteresis ν) (setpoint : ν) : Except (ControlError ν) (Hysteresis ν) := do
  let (loop, _) ← c.loop.setSetpoint setpoint
  return { c with loop }

/-- Whether the controller is on after a value. -/
def nextOn (c : Hysteresis ν) (value : ν) : Bool :=
  if c.isOn then !decide (value - c.low ≤ c.loop.setpoint)
  else decide (c.loop.setpoint ≤ value - c.high)

/-- The controller after a value, and what it says. -/
def step (c : Hysteresis ν) (now : Instant) (value : ν) : Hysteresis ν × HysteresisStatus ν :=
  let isOn := c.nextOn value
  ({ c with loop := c.loop.record now value, isOn },
    ⟨c.loop.setpoint, value - c.loop.setpoint, if isOn then 1 else -1, value⟩)

/-- The controller after a sample, and what it says.  A failed sample is passed on. -/
def compute (c : Hysteresis ν) (sample : Signal ν) : Hysteresis ν × Signal (HysteresisStatus ν) :=
  match sample.health with
  | .totalFailure e => (c, ⟨sample.time, sample.source, .totalFailure e⟩)
  | .ok v => let (c, s) := c.step sample.time v; (c, sample.withValue s)
  | .partialFailure v _ => let (c, s) := c.step sample.time v; (c, sample.withValue s)

end Hysteresis

end HomeClimate
