import HomeClimate.Config.Error
import HomeClimate.Document.Json
import HomeClimate.Document.Yaml
import HomeClimate.Document.Yaml.Writer

/-!
# Configurations as documents

A configuration as a record, in JSON or in YAML.  A field with a default may be
left out, and one that is absent is left out when it is written.  A field of
another name is passed over.

`ConfigFormat.read` reads a text and accepts only what passes the check.  A version
before the first is refused before the check is made, for nothing is known of it.
`ConfigFormat.write` writes only what passes the check.
-/

namespace HomeClimate

/-! ## Reading -/

/-- The mode of a document. -/
def Mode.ofDocument? (d : Document) : Option Mode := d.asChoice?.bind Mode.ofName?

namespace UnitConfig

/-- The unit of a record. -/
def ofDocument? (d : Document) : Option UnitConfig := do
  let f ← d.fields? ["name", "mode", "rate_limit_ms"] false
  let standard : UnitConfig := {}
  let name ← f.defaulted? "name" standard.name Document.asText?
  let mode ← f.defaulted? "mode" standard.mode Mode.ofDocument?
  let rateLimitMillis ←
    f.defaulted? "rate_limit_ms" standard.rateLimitMillis (Document.asNatural? 64)
  return { name, mode, rateLimitMillis }

/-- The unit as a record. -/
def document (u : UnitConfig) : Document :=
  .record [("name", .text u.name), ("mode", .text u.mode.name),
    ("rate_limit_ms", .ofNatural u.rateLimitMillis)]

end UnitConfig

namespace RangeConfig

/-- The range of a record. -/
def ofDocument? (d : Document) : Option (RangeConfig Float) := do
  let f ← d.fields? ["min", "max"] false
  let min ← f.required? "min" Document.asDouble?
  let max ← f.required? "max" Document.asDouble?
  return { min, max }

/-- The range as a record. -/
def document (r : RangeConfig Float) : Document :=
  .record [("min", .ofDouble r.min), ("max", .ofDouble r.max)]

end RangeConfig

namespace PidConfig

/-- The names of the fields, in order. -/
def fieldNames : List String := ["p", "i", "d", "limit", "integral_span_s", "derivative_span_s"]

/-- The controller of a record. -/
def ofDocument? (doc : Document) : Option (PidConfig Float) := do
  let f ← doc.fields? fieldNames false
  let p ← f.required? "p" Document.asDouble?
  let i ← f.defaulted? "i" 0 Document.asDouble?
  let d ← f.defaulted? "d" 0 Document.asDouble?
  let limit ← f.defaulted? "limit" 0 Document.asDouble?
  let integralSeconds ← f.optional? "integral_span_s" Document.asDouble?
  let slopeSeconds ← f.optional? "derivative_span_s" Document.asDouble?
  return { p, i, d, limit, integralSeconds, slopeSeconds }

/-- The controller as a record. -/
def document (c : PidConfig Float) : Document :=
  .ofFields
    [("p", some (.ofDouble c.p)), ("i", some (.ofDouble c.i)), ("d", some (.ofDouble c.d)),
     ("limit", some (.ofDouble c.limit)), ("integral_span_s", c.integralSeconds.map .ofDouble),
     ("derivative_span_s", c.slopeSeconds.map .ofDouble)]

end PidConfig

namespace SensorConfig

/-- The names of the fields, in order. -/
def fieldNames : List String := ["sources", "median_depth", "timeout_ms", "repeat"]

/-- The sensors of a record. -/
def ofDocument? (d : Document) : Option SensorConfig := do
  let f ← d.fields? fieldNames false
  let sources ← f.required? "sources" (Document.asList? Document.asText?)
  let standard : SensorConfig := { sources }
  let medianDepth ← f.defaulted? "median_depth" standard.medianDepth (Document.asNatural? 64)
  let timeoutMillis ← f.defaulted? "timeout_ms" standard.timeoutMillis (Document.asNatural? 64)
  let repeats ← f.defaulted? "repeat" standard.repeats Document.asBool?
  return { sources, medianDepth, timeoutMillis, repeats }

/-- The sensors as a record. -/
def document (s : SensorConfig) : Document :=
  .record
    [("sources", .list (s.sources.map .text)), ("median_depth", .ofNatural s.medianDepth),
     ("timeout_ms", .ofNatural s.timeoutMillis), ("repeat", .bool s.repeats)]

end SensorConfig

namespace EconomizerConfig

/-- The names of the fields, in order. -/
def fieldNames : List String :=
  ["mode", "changeover_delta", "target_temperature", "enabled", "keep_hvac_on", "max_power", "pid",
   "timeout_s"]

/-- The economizer of a record. -/
def ofDocument? (d : Document) : Option (EconomizerConfig Float) := do
  let f ← d.fields? fieldNames false
  let mode ← f.required? "mode" Mode.ofDocument?
  let changeoverDelta ← f.required? "changeover_delta" Document.asDouble?
  let target ← f.required? "target_temperature" Document.asDouble?
  let enabled ← f.defaulted? "enabled" true Document.asBool?
  let keepsHvacOn ← f.defaulted? "keep_hvac_on" false Document.asBool?
  let maxPower ← f.defaulted? "max_power" 1 Document.asDouble?
  let pid ← f.optional? "pid" PidConfig.ofDocument?
  let timeoutSeconds ← f.defaulted? "timeout_s" 90 (Document.asNatural? 64)
  return { mode, changeoverDelta, target, enabled, keepsHvacOn, maxPower, pid, timeoutSeconds }

/-- The economizer as a record. -/
def document (e : EconomizerConfig Float) : Document :=
  .ofFields
    [("mode", some (.text e.mode.name)), ("changeover_delta", some (.ofDouble e.changeoverDelta)),
     ("target_temperature", some (.ofDouble e.target)), ("enabled", some (.bool e.enabled)),
     ("keep_hvac_on", some (.bool e.keepsHvacOn)), ("max_power", some (.ofDouble e.maxPower)),
     ("pid", e.pid.map PidConfig.document), ("timeout_s", some (.ofNatural e.timeoutSeconds))]

end EconomizerConfig

namespace ZoneConfig

/-- The names of the fields, in order. -/
def fieldNames : List String :=
  ["name", "setpoint", "range", "pid", "enabled", "voting", "dump_priority", "sensor", "economizer"]

/-- The zone of a record. -/
def ofDocument? (d : Document) : Option (ZoneConfig Float) := do
  let f ← d.fields? fieldNames false
  let name ← f.required? "name" Document.asText?
  let setpoint ← f.required? "setpoint" Document.asDouble?
  let range ← f.defaulted? "range" .standard RangeConfig.ofDocument?
  let pid ← f.required? "pid" PidConfig.ofDocument?
  let enabled ← f.defaulted? "enabled" true Document.asBool?
  let voting ← f.defaulted? "voting" true Document.asBool?
  let dumpPriority ← f.defaulted? "dump_priority" 0 Document.asInteger32?
  let sensor ← f.required? "sensor" SensorConfig.ofDocument?
  let economizer ← f.optional? "economizer" EconomizerConfig.ofDocument?
  return { name, setpoint, range, pid, enabled, voting, dumpPriority, sensor, economizer }

/-- The zone as a record. -/
def document (z : ZoneConfig Float) : Document :=
  .ofFields
    [("name", some (.text z.name)), ("setpoint", some (.ofDouble z.setpoint)),
     ("range", some z.range.document), ("pid", some z.pid.document),
    ("enabled", some (.bool z.enabled)),
     ("voting", some (.bool z.voting)), ("dump_priority", some (.number (.integer z.dumpPriority))),
     ("sensor", some z.sensor.document), ("economizer", z.economizer.map EconomizerConfig.document)]

end ZoneConfig

namespace SchedulerConfig

/-- The scheduler of a record. -/
def ofDocument? (d : Document) : Option SchedulerConfig := do
  let f ← d.fields? ["granularity_s", "poll_interval_s"] false
  let standard : SchedulerConfig := {}
  let granularitySeconds ←
    f.defaulted? "granularity_s" standard.granularitySeconds (Document.asNatural? 64)
  let pollSeconds ← f.defaulted? "poll_interval_s" standard.pollSeconds (Document.asNatural? 64)
  return { granularitySeconds, pollSeconds }

/-- The scheduler as a record. -/
def document (s : SchedulerConfig) : Document :=
  .record
    [("granularity_s", .ofNatural s.granularitySeconds),
      ("poll_interval_s", .ofNatural s.pollSeconds)]

end SchedulerConfig

namespace PeriodConfig

/-- The names of the fields, in order. -/
def fieldNames : List String := ["zone", "period", "start", "end", "days", "settings"]

/-- The period of a record. -/
def ofDocument? (d : Document) : Option PeriodConfig := do
  let f ← d.fields? fieldNames false
  let zone ← f.required? "zone" Document.asText?
  let name ← f.required? "period" Document.asText?
  let start ← f.required? "start" Document.asText?
  let stop ← f.required? "end" Document.asText?
  let days ← f.required? "days" Document.asText?
  let settings ← f.required? "settings" Document.asText?
  return { zone, name, start, stop, days, settings }

/-- The period as a record. -/
def document (p : PeriodConfig) : Document :=
  .record
    [("zone", .text p.zone), ("period", .text p.name), ("start", .text p.start),
      ("end", .text p.stop),
     ("days", .text p.days), ("settings", .text p.settings)]

end PeriodConfig

namespace SystemConfig

/-- The names of the fields, in order. -/
def fieldNames : List String :=
  ["version", "name", "unit", "zones", "ambient", "scheduler", "schedule"]

/-- The configuration of a record. -/
def ofDocument? (d : Document) : Option (SystemConfig Float) := do
  let f ← d.fields? fieldNames false
  let version ← f.required? "version" (Document.asNatural? 32)
  let name ← f.required? "name" Document.asText?
  let unit ← f.defaulted? "unit" {} UnitConfig.ofDocument?
  let zones ← f.defaulted? "zones" [] (Document.asList? ZoneConfig.ofDocument?)
  let ambient ← f.optional? "ambient" SensorConfig.ofDocument?
  let scheduler ← f.defaulted? "scheduler" {} SchedulerConfig.ofDocument?
  let schedule ← f.defaulted? "schedule" [] (Document.asList? PeriodConfig.ofDocument?)
  return { version, name, unit, zones, ambient, scheduler, schedule }

/-- The configuration as a record. -/
def document (c : SystemConfig Float) : Document :=
  .ofFields
    [("version", some (.ofNatural c.version)), ("name", some (.text c.name)),
     ("unit", some c.unit.document), ("zones", some (.list (c.zones.map ZoneConfig.document))),
     ("ambient", c.ambient.map SensorConfig.document), ("scheduler", some c.scheduler.document),
     ("schedule", some (.list (c.schedule.map PeriodConfig.document)))]

end SystemConfig

/-! ## Files -/

/-- The formats of a configuration. -/
inductive ConfigFormat where
  | json
  | yaml
  deriving Repr, DecidableEq

namespace ConfigFormat

/-- The ending of the name of a file, after its last point.  A name that has no other point than
the one it starts with has none. -/
def ending? (path : String) : Option (List Char) :=
  let name := (path.toList.reverse.dropWhile (· = '/')).takeWhile (· ≠ '/')
  match Text.cutAt? (· = '.') name with
  | some (ending, before) =>
    if before.isEmpty || name = ['.', '.'] then none else some ending.reverse
  | none => none

/-- The format of a file: JSON if its name says so in any case, and YAML otherwise. -/
def ofPath (path : String) : ConfigFormat :=
  if (ending? path).map (·.map Char.toLower) = some "json".toList then .json else .yaml

/-- The document of a text. -/
def document? (format : ConfigFormat) (text : String) : Option Document :=
  match format with
  | .json => Json.read? text
  | .yaml => Yaml.read? text

/-- The error of a text that is not a document of the format. -/
def error {ν : Type} : ConfigFormat → ConfigError ν
  | .json => .json
  | .yaml => .yaml

/-- Nothing, or why a configuration is not accepted. -/
def accept (c : SystemConfig Float) : Except (ConfigError Float) Unit :=
  if c.version < firstVersion then .error (.unknownVersion c.version)
  else
    match c.check with
    | .ok () => .ok ()
    | .error f => .error (.fault f)

/-- The configuration of a text, if it is accepted. -/
def read (format : ConfigFormat) (text : String) :
    Except (ConfigError Float) (SystemConfig Float) := do
  match (format.document? text).bind SystemConfig.ofDocument? with
  | none => throw format.error
  | some c =>
    accept c
    return c

/-- The configuration of a file, whose content is not known if it cannot be read. -/
def load (format : ConfigFormat) : Option String → Except (ConfigError Float) (SystemConfig Float)
  | some text => format.read text
  | none => .error .file

/-- A configuration as a text, whatever it says. -/
def render (format : ConfigFormat) (c : SystemConfig Float) : String :=
  match format with
  | .json => Json.pretty 0 c.document
  | .yaml => Yaml.write c.document

/-- A configuration as a text, if it passes the check. -/
def write (format : ConfigFormat) (c : SystemConfig Float) : Except (ConfigFault Float) String :=
  c.check.map fun () => format.render c

end ConfigFormat

end HomeClimate
