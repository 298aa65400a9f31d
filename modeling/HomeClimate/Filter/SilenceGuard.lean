import HomeClimate.Filter.Error
import HomeClimate.Signal.Basic

/-!
# The silence guard

A guard reports a failure when no signal has come for too long.  It can be asked
at any time, by `check`, or be told by a timer that the time is up, by `expire`.
With `repeats` it reports once per timeout for as long as the silence lasts, and
otherwise once.

A guard that has seen nothing starts its silence at the first check.
-/

namespace HomeClimate

/-- A watch for silence. -/
structure SilenceGuard where
  /-- What is watched, as a report names it. -/
  marker : String
  /-- How long a silence may be. -/
  timeout : Span
  /-- Whether a silence is reported again and again. -/
  repeats : Bool
  /-- Whether the current silence has been reported. -/
  inTimeout : Bool
  /-- The start of the silence, or the last time it was found too long. -/
  lastSeen : Option Instant
  deriving Repr, DecidableEq

namespace SilenceGuard

variable {α : Type}

/-- A guard that has seen nothing. -/
def create (marker : String) (timeout : Span) (repeats : Bool) : Except FilterError SilenceGuard :=
  if timeout < Span.millis 1 then .error (.timeoutTooShort timeout)
  else .ok ⟨marker, timeout, repeats, false, none⟩

/-- The guard after a signal. -/
def observe (g : SilenceGuard) (signal : Signal α) : SilenceGuard :=
  { g with lastSeen := some signal.time, inTimeout := false }

/-- The report of a silence. -/
def report (g : SilenceGuard) (now : Instant) : Signal α :=
  .failure now none (.timeout g.marker g.timeout)

/-- The guard when a silence has lasted too long, and the report if there is one. -/
def expire (g : SilenceGuard) (now : Instant) : SilenceGuard × Option (Signal α) :=
  let g := { g with lastSeen := some now }
  if g.inTimeout && !g.repeats then (g, none)
  else ({ g with inTimeout := true }, some (g.report now))

/-- The guard after it was asked, and the report if the silence is too long. -/
def check (g : SilenceGuard) (now : Instant) : SilenceGuard × Option (Signal α) :=
  let start := g.lastSeen.getD now
  if now.spanSince start < g.timeout then ({ g with lastSeen := some start }, none)
  else g.expire now

/-- The guard as a filter: it watches the signal and passes it on. -/
def process (g : SilenceGuard) (signal : Signal α) : SilenceGuard × Signal α :=
  (g.observe signal, signal)

end SilenceGuard

end HomeClimate
