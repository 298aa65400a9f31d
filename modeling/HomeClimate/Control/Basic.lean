import HomeClimate.Control.Fault
import HomeClimate.Number.Finite
import HomeClimate.Signal.Basic

/-!
# Controllers

A controller turns samples of a process into a control signal that drives the
process towards its setpoint.  What all controllers keep is a `ControlLoop`: a
name, the setpoint and the last sample.  What they give is a `ControlStatus`.
-/

namespace HomeClimate

/-! ## Errors -/

/-- The settings of a controller that must be finite. -/
inductive ControlQuantity where
  | setpoint
  | proportionalGain
  | integralGain
  | derivativeGain
  | limit
  | lowThreshold
  | highThreshold
  deriving Repr, DecidableEq

/-- What a setting is called. -/
def ControlQuantity.name : ControlQuantity → String
  | .setpoint => "setpoint"
  | .proportionalGain => "P"
  | .integralGain => "I"
  | .derivativeGain => "D"
  | .limit => "saturation limit"
  | .lowThreshold => "low threshold"
  | .highThreshold => "high threshold"

/-- Why a controller cannot be set up as asked. -/
inductive ControlError (ν : Type) where
  /-- A setting is not finite. -/
  | notFinite (quantity : ControlQuantity) (value : ν)
  /-- The saturation limit is negative. -/
  | negativeLimit (value : ν)
  /-- The low threshold is not negative. -/
  | lowNotNegative (value : ν)
  /-- The high threshold is not positive. -/
  | highNotPositive (value : ν)
  /-- All gains are zero. -/
  | noGain
  /-- The span of the integral is zero. -/
  | noIntegralSpan
  deriving Repr

namespace ControlError

/-- An error as a text. -/
def message (e : ControlError Float) : String :=
  let value := fun what x => "Invalid value for " ++ what ++ ": " ++ NumberLayout.plain.write x
  match e with
  | .notFinite quantity x => value quantity.name x
  | .negativeLimit x => value "saturation limit must be non-negative" x
  | .lowNotNegative x => value "low threshold must be negative" x
  | .highNotPositive x => value "high threshold must be positive" x
  | .noGain => "Invalid argument: all PID components are zeroed"
  | .noIntegralSpan => "Invalid argument: integral span must be positive"

end ControlError

variable {ν : Type} [Scalar ν]

/-- Nothing, or an error if a setting is not finite. -/
def ensureFinite (quantity : ControlQuantity) (value : ν) : Except (ControlError ν) Unit :=
  match Scalar.finite quantity.name value with
  | .ok _ => .ok ()
  | .error e => .error (.notFinite quantity e.value)

/-! ## Loops -/

/-- What every controller keeps. -/
structure ControlLoop (ν : Type) where
  /-- What the controller is called. -/
  name : String
  /-- The value that the process is to have. -/
  setpoint : ν
  /-- The last sample of the process. -/
  sample : Option (Instant × ν)

namespace ControlLoop

/-- A loop without a sample. -/
def create (name : String) (setpoint : ν) : Except (ControlError ν) (ControlLoop ν) := do
  ensureFinite .setpoint setpoint
  return ⟨name, setpoint, none⟩

/-- The loop with another setpoint, and whether that is a change. -/
def setSetpoint (l : ControlLoop ν) (setpoint : ν) :
    Except (ControlError ν) (ControlLoop ν × Bool) := do
  ensureFinite .setpoint setpoint
  return ({ l with setpoint }, !(setpoint == l.setpoint))

/-- The loop after a sample. -/
def record (l : ControlLoop ν) (time : Instant) (value : ν) : ControlLoop ν :=
  { l with sample := some (time, value) }

/-- The last value of the process. -/
def value? (l : ControlLoop ν) : Option ν := l.sample.map Prod.snd

/-- How far the process is above its setpoint, zero without a sample. -/
def error (l : ControlLoop ν) : ν :=
  match l.sample with
  | none => 0
  | some (_, v) => v - l.setpoint

end ControlLoop

/-- What a controller says about a sample. -/
structure ControlStatus (ν δ : Type) where
  /-- The value that the process is to have. -/
  setpoint : ν
  /-- How far the sample is above it. -/
  error : ν
  /-- The control signal. -/
  signal : ν
  /-- What the kind of controller adds. -/
  detail : δ

/-- A status as a text, where `shown` writes its detail. -/
def ControlStatus.text {δ : Type} (shown : δ → String) (s : ControlStatus Float δ) : String :=
  let number := NumberLayout.plain.write
  "setpoint=" ++ number s.setpoint ++ ",error=" ++ number s.error ++
    ",signal=" ++ number s.signal ++
    "," ++ shown s.detail

end HomeClimate
