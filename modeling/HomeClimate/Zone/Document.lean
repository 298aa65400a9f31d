import HomeClimate.Document.Basic
import HomeClimate.Zone.Settings

/-!
# Settings as documents

The settings of a zone as a record.  A field that is not set is left out, and one
that is left out or absent is not set.  The hold flag is not part of the record,
for it belongs to the moment and is not kept.

A field of another name is passed over.
-/

namespace HomeClimate

namespace EconomizerSettings

/-- The names of the fields, in order. -/
def fieldNames : List String :=
  ["enabled", "changeover-delta", "target-temperature", "keep-hvac-on", "max-power"]

/-- The settings of a record. -/
def ofDocument? (d : Document) : Option (EconomizerSettings Float) := do
  let f ← d.fields? fieldNames false
  let enabled ← f.optional? "enabled" Document.asBool?
  let changeoverDelta ← f.required? "changeover-delta" Document.asDouble?
  let target ← f.required? "target-temperature" Document.asDouble?
  let keepsHvacOn ← f.defaulted? "keep-hvac-on" false Document.asBool?
  let maxPower ← f.defaulted? "max-power" 1.0 Document.asDouble?
  return { enabled, changeoverDelta, target, keepsHvacOn, maxPower }

/-- The settings as a record. -/
def document (s : EconomizerSettings Float) : Document :=
  .ofFields
    [("enabled", s.enabled.map .bool),
     ("changeover-delta", some (.ofDouble s.changeoverDelta)),
     ("target-temperature", some (.ofDouble s.target)),
     ("keep-hvac-on", some (.bool s.keepsHvacOn)),
     ("max-power", some (.ofDouble s.maxPower))]

end EconomizerSettings

namespace ZoneSettings

/-- The names of the fields, in order. -/
def fieldNames : List String := ["enabled", "setpoint", "voting", "dump-priority", "economizer"]

/-- The settings of a record. -/
def ofDocument? (d : Document) : Option (ZoneSettings Float) := do
  let f ← d.fields? fieldNames false
  let enabled ← f.optional? "enabled" Document.asBool?
  let setpoint ← f.optional? "setpoint" Document.asDouble?
  let voting ← f.optional? "voting" Document.asBool?
  let dumpPriority ← f.optional? "dump-priority" Document.asInteger32?
  let economizer ← f.optional? "economizer" EconomizerSettings.ofDocument?
  return { enabled, setpoint, voting, dumpPriority, economizer }

/-- The settings as a record. -/
def document (s : ZoneSettings Float) : Document :=
  .ofFields
    [("enabled", s.enabled.map .bool),
     ("setpoint", s.setpoint.map .ofDouble),
     ("voting", s.voting.map .bool),
     ("dump-priority", s.dumpPriority.map fun n => .number (.integer n)),
     ("economizer", s.economizer.map EconomizerSettings.document)]

end ZoneSettings

end HomeClimate
