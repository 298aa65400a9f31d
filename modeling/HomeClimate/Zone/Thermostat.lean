import HomeClimate.Control.Hysteresis
import HomeClimate.Control.Pid
import HomeClimate.Zone.Error
import HomeClimate.Zone.Status

/-!
# Thermostats

A thermostat turns the temperature of a zone into a verdict.  A PID controller
computes a signal from the temperature, and a hysteresis controller around zero
renders it as calling or not.  The demand is the signal above the low threshold,
so it is positive whenever the thermostat is calling.

The setpoint stays within the range of the thermostat.
-/

namespace HomeClimate

variable {ν : Type} [Scalar ν]

/-! ## Ranges -/

/-- The setpoints that a thermostat accepts. -/
structure SetpointRange (ν : Type) where
  /-- The lowest. -/
  min : ν
  /-- The highest. -/
  max : ν

namespace SetpointRange

/-- A range between finite ends. -/
def create (min max : ν) : Except (ZoneError ν) (SetpointRange ν) :=
  if !Scalar.isFinite min || !Scalar.isFinite max || decide (max ≤ min) then .error .badRange
  else .ok ⟨min, max⟩

/-- The range of a thermostat that is given none. -/
def standard : SetpointRange ν := ⟨Scalar.ofInt 10, Scalar.ofInt 40⟩

/-- Whether a setpoint is in the range. -/
def contains (r : SetpointRange ν) (setpoint : ν) : Bool :=
  decide (r.min ≤ setpoint) && decide (setpoint ≤ r.max)

/-- Nothing, or an error if a setpoint is not in the range. -/
def check (r : SetpointRange ν) (setpoint : ν) : Except (ZoneError ν) Unit :=
  if r.contains setpoint then .ok () else .error (.outsideRange setpoint r.min r.max)

end SetpointRange

/-! ## Thermostats -/

/-- A controller with a verdict. -/
structure Thermostat (ν : Type) where
  /-- What it is called: the name of its zone. -/
  name : String
  /-- The setpoints that it accepts. -/
  range : SetpointRange ν
  /-- What turns temperatures into a signal. -/
  controller : Pid ν
  /-- What turns the signal into a verdict. -/
  renderer : Hysteresis ν
  /-- The last status of the controller. -/
  lastStatus : Option (PidStatus ν)

/-- The name of a controller that belongs to something. -/
def controllerName (name : String) : String := "(controller) " ++ name

/-- The name of a renderer that belongs to something. -/
def rendererName (name : String) : String := "(renderer) " ++ name

namespace Thermostat

/-- A thermostat that has seen no sample. -/
def create (name : String) (setpoint : ν) (range : SetpointRange ν) (pid : PidSettings ν) :
    Except (ZoneError ν) (Thermostat ν) := do
  range.check setpoint
  let controller ← ZoneError.ofControl (Pid.create (controllerName name) setpoint pid)
  let renderer ← ZoneError.ofControl (Hysteresis.symmetric (rendererName name) 0 1)
  return ⟨name, range, controller, renderer, none⟩

/-- The setpoint. -/
def setpoint (t : Thermostat ν) : ν := t.controller.loop.setpoint

/-- The thermostat with another setpoint. -/
def setSetpoint (t : Thermostat ν) (setpoint : ν) : Except (ZoneError ν) (Thermostat ν) := do
  t.range.check setpoint
  let controller ← ZoneError.ofControl (t.controller.setSetpoint setpoint)
  return { t with controller }

/-- The verdict on a signal of the controller. -/
def verdict (t : Thermostat ν) (rendered : HysteresisStatus ν) (signal : ν) : CallingStatus ν :=
  ⟨some rendered.detail, signal - t.renderer.low, rendered.signal == 1⟩

/-- The thermostat after a value, and its verdict.  A fault of the controller leaves the renderer and
the last status as they were. -/
def attempt (t : Thermostat ν) (now : Instant) (value : ν) :
    Attempt ν (Thermostat ν) (CallingStatus ν) :=
  match t.controller.attempt now value with
  | (controller, .error f) => ({ t with controller }, .error f)
  | (controller, .ok pid) =>
    let (renderer, rendered) := t.renderer.step now pid.signal
    ({ t with controller, renderer, lastStatus := some pid }, .ok (t.verdict rendered pid.signal))

/-- The thermostat after a sample, and its verdict.  A failed sample is passed on. -/
def attemptSample (t : Thermostat ν) (sample : Signal ν) :
    Attempt ν (Thermostat ν) (Signal (CallingStatus ν)) :=
  match sample.value? with
  | none => (t, .ok (sample.map fun _ => .idle))
  | some v =>
    let (t, verdict) := t.attempt sample.time v
    (t, verdict.map sample.withValue)

/-- The thermostat after a sample, and its verdict, unless there is a fault. -/
def compute (t : Thermostat ν) (sample : Signal ν) :
    Except (Fault ν) (Thermostat ν × Signal (CallingStatus ν)) :=
  (t.attemptSample sample).complete

end Thermostat

end HomeClimate
