import HomeClimate.Config.Basic
import HomeClimate.Filter.Stage
import HomeClimate.House.Error

/-!
# Sensor chains

A *sensor chain* makes one stream of temperatures out of the readings of several
sensors.  It is a row of four filters.

* The fallback filter picks the best source that works.
* The median filter takes out spikes.
* The order guard drops what comes too late.
* The silence guard reports when nothing has come for too long.

`process` hands a reading through the row.  Silence is reported by `check` only.
-/

namespace HomeClimate

variable {ν : Type} [Scalar ν]

/-- The filters between some sensors and what they measure for. -/
structure SensorChain (ν : Type) where
  /-- Picks a source. -/
  fallback : Fallback ν
  /-- Takes out spikes. -/
  median : Median ν
  /-- Drops what is late. -/
  order : OrderGuard
  /-- Reports silence. -/
  silence : SilenceGuard

namespace SensorChain

/-- A chain that has seen nothing, under the name of what it measures for. -/
def create (name : String) (config : SensorConfig) : Except (HouseError ν) (SensorChain ν) := do
  let fallback ← HouseError.ofFilter (Fallback.create config.sources)
  let median ← HouseError.ofFilter (Median.create config.medianDepth Scalar.mean)
  let silence ← HouseError.ofFilter
    (SilenceGuard.create name (Span.millis config.timeoutMillis) config.repeats)
  return ⟨fallback, median, .create, silence⟩

/-- What it measures for. -/
def name (c : SensorChain ν) : String := c.silence.marker

/-- The sources, the best first. -/
def sources (c : SensorChain ν) : List String := c.fallback.sources

/-- The chain after a reading, and what comes out of it. -/
def process (c : SensorChain ν) (reading : Signal ν) : SensorChain ν × Option (Signal ν) :=
  match c.fallback.process reading with
  | (fallback, none) => ({ c with fallback }, none)
  | (fallback, some picked) =>
    let (median, smooth) := c.median.process picked
    match c.order.process smooth with
    | (order, none) => ({ c with fallback, median, order }, none)
    | (order, some ordered) =>
      let (silence, out) := c.silence.process ordered
      (⟨fallback, median, order, silence⟩, some out)

/-- The chain after it was asked about silence, and the report if it has lasted too long. -/
def check (c : SensorChain ν) (now : Instant) : SensorChain ν × Option (Signal ν) :=
  let (silence, report) := c.silence.check now
  ({ c with silence }, report)

/-- The filters as a row of stages. -/
def stages (c : SensorChain ν) : List (FilterStage ν) :=
  [.fallback c.fallback, .median c.median, .orderGuard c.order, .silenceGuard c.silence]

end SensorChain

end HomeClimate
