import HomeClimate.Control.Basic
import HomeClimate.Control.Sliding

/-!
# The PID controller

The control signal is the sum of three terms.

* The proportional term: the error times its gain.
* The integral term: the area under the errors of a window, times its gain.
* The derivative term: the slope of the process over a window, times its gain.

With a positive *limit* the integral term stays below it in magnitude.  It is
taken over only when the last signal was below the limit and the new term is.
Otherwise it is kept, and where the last signal was not below the limit the
window gets a zero in place of the error, so that it moves but does not grow.
With the limit zero the term is always taken over.

Samples must come in order of time.  A failed sample has no value and is passed
on; it leaves no trace.
-/

namespace HomeClimate

variable {ν : Type} [Scalar ν]

/-! ## Settings -/

/-- The settings of a PID controller. -/
structure PidSettings (ν : Type) where
  /-- The proportional gain. -/
  p : ν
  /-- The integral gain. -/
  i : ν
  /-- The derivative gain. -/
  d : ν
  /-- The bound of the integral term, zero for none. -/
  limit : ν
  /-- The window of the integral. -/
  integralSpan : Span
  /-- The window of the slope. -/
  slopeSpan : Span
  /-- Whether the integral starts anew when the setpoint changes. -/
  resetsOnSetpoint : Bool

namespace PidSettings

/-- Settings with the usual windows: half an hour and one second. -/
def ofGains (p i d limit : ν) : PidSettings ν :=
  { p, i, d, limit, integralSpan := Span.seconds 1800, slopeSpan := Span.seconds 1,
    resetsOnSetpoint := true }

/-- Nothing, or what is wrong with the settings. -/
def check (s : PidSettings ν) : Except (ControlError ν) Unit := do
  ensureFinite .proportionalGain s.p
  ensureFinite .integralGain s.i
  ensureFinite .derivativeGain s.d
  ensureFinite .limit s.limit
  if s.p == 0 && s.i == 0 && s.d == 0 then throw .noGain
  if s.limit < 0 then throw (.negativeLimit s.limit)
  if s.integralSpan = 0 then throw .noIntegralSpan

end PidSettings

/-- The three terms of a control signal. -/
structure PidTerms (ν : Type) where
  p : ν
  i : ν
  d : ν

/-- The terms as a text. -/
def PidTerms.text (t : PidTerms Float) : String :=
  let shown := NumberLayout.precise.write
  Text.showRecord "PidTerms" [("p", shown t.p), ("i", shown t.i), ("d", shown t.d)]

/-- What a PID controller says about a sample. -/
abbrev PidStatus (ν : Type) := ControlStatus ν (PidTerms ν)

/-! ## The controller -/

/-- A PID controller. -/
structure Pid (ν : Type) where
  /-- The name, the setpoint and the last sample. -/
  loop : ControlLoop ν
  /-- The settings.  The windows keep the spans they started with. -/
  settings : PidSettings ν
  /-- The window of the errors. -/
  integral : SlidingIntegral ν
  /-- The window of the process. -/
  slope : SlidingSlope ν
  /-- The last control signal. -/
  lastOutput : Option ν
  /-- The last terms. -/
  terms : PidTerms ν

namespace Pid

/-- A controller that has seen no sample. -/
def create (name : String) (setpoint : ν) (settings : PidSettings ν) :
    Except (ControlError ν) (Pid ν) := do
  settings.check
  let loop ← ControlLoop.create name setpoint
  return { loop, settings, integral := .empty settings.integralSpan,
           slope := .empty settings.slopeSpan, lastOutput := none, terms := ⟨0, 0, 0⟩ }

/-- The controller with other settings, if they are right. -/
def reconfigure (c : Pid ν) (settings : PidSettings ν) : Except (ControlError ν) (Pid ν) := do
  settings.check
  return { c with settings }

/-- The controller with another proportional gain. -/
def setP (c : Pid ν) (p : ν) : Except (ControlError ν) (Pid ν) :=
  c.reconfigure { c.settings with p }

/-- The controller with another integral gain. -/
def setI (c : Pid ν) (i : ν) : Except (ControlError ν) (Pid ν) :=
  c.reconfigure { c.settings with i }

/-- The controller with another derivative gain. -/
def setD (c : Pid ν) (d : ν) : Except (ControlError ν) (Pid ν) :=
  c.reconfigure { c.settings with d }

/-- The controller with another limit. -/
def setLimit (c : Pid ν) (limit : ν) : Except (ControlError ν) (Pid ν) :=
  c.reconfigure { c.settings with limit }

/-- The controller with the integral starting anew on a setpoint change, or not. -/
def setResets (c : Pid ν) (resets : Bool) : Pid ν :=
  { c with settings := { c.settings with resetsOnSetpoint := resets } }

/-- The controller with an empty integral window. -/
def resetIntegral (c : Pid ν) : Pid ν :=
  { c with integral := c.integral.reset, terms := { c.terms with i := 0 } }

/-- The controller with another setpoint.  A change starts the integral anew, if so set. -/
def setSetpoint (c : Pid ν) (setpoint : ν) : Except (ControlError ν) (Pid ν) := do
  let (loop, changed) ← c.loop.setSetpoint setpoint
  let c := { c with loop }
  return if changed && c.settings.resetsOnSetpoint then c.resetIntegral else c

/-- Whether the last signal was below the limit. -/
def isUnsaturated (c : Pid ν) : Bool :=
  match c.lastOutput with
  | some output => decide (Scalar.abs output < c.settings.limit)
  | none => false

/-- The integral window and the integral term after a sample with an error. -/
def integrate (c : Pid ν) (now : Instant) (error : ν) :
    Except (Fault ν) (SlidingIntegral ν × ν) :=
  if c.settings.limit == 0 then
    (c.integral.append now error).map fun w => (w, w.sum * c.settings.i)
  else if c.isUnsaturated then
    (c.integral.append now error).map fun w =>
      let term := w.sum * c.settings.i
      (w, if Scalar.abs term < c.settings.limit then term else c.terms.i)
  else (c.integral.append now 0).map fun w => (w, c.terms.i)

/-- The derivative term of a slope.  A slope that is not finite counts as none. -/
def derivativeTerm (gain slope : ν) : ν := if Scalar.isFinite slope then slope * gain else 0

/-- The controller with the terms of a new value. -/
def weigh (c : Pid ν) (now : Instant) (value : ν) : Except (Fault ν) (Pid ν) := do
  match c.loop.sample with
  | some (last, _) => if ¬ last < now then throw (.backInTime c.loop.name last now)
  | none => pure ()
  let error := value - c.loop.setpoint
  let (integral, i) ← c.integrate now error
  let slope := c.slope.append now value
  let terms := ⟨error * c.settings.p, i, derivativeTerm c.settings.d slope.slope⟩
  return { c with loop := c.loop.record now value, integral, slope, terms }

/-- The controller after a value, and what it says.  If the signal is no number the terms and the
windows have the value nevertheless. -/
def attempt (c : Pid ν) (now : Instant) (value : ν) : Attempt ν (Pid ν) (PidStatus ν) :=
  match c.weigh now value with
  | .error f => (c, .error f)
  | .ok c =>
    let signal := c.terms.p + c.terms.i + c.terms.d
    if Scalar.isNaN signal then
      (c, .error (.noSignal c.loop.name c.terms.p c.terms.i c.terms.d))
    else
      ({ c with lastOutput := some signal },
        .ok ⟨c.loop.setpoint, value - c.loop.setpoint, signal, c.terms⟩)

/-- The controller after a value, and what it says, unless there is a fault. -/
def step (c : Pid ν) (now : Instant) (value : ν) : Except (Fault ν) (Pid ν × PidStatus ν) :=
  (c.attempt now value).complete

/-- The controller after a sample, and what it says.  A failed sample is passed on. -/
def compute (c : Pid ν) (sample : Signal ν) : Except (Fault ν) (Pid ν × Signal (PidStatus ν)) :=
  match sample.health with
  | .totalFailure e => .ok (c, ⟨sample.time, sample.source, .totalFailure e⟩)
  | .ok v => (c.step sample.time v).map fun (c, s) => (c, sample.withValue s)
  | .partialFailure v _ => (c.step sample.time v).map fun (c, s) => (c, sample.withValue s)

end Pid

end HomeClimate
