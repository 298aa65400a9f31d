import HomeClimate.Document.Yaml
import HomeClimate.Schedule.SettingsText
import HomeClimate.Zone.Document

/-!
# Events of a calendar

An event has a title and perhaps a description.  With a description, the name of
the period is what stands before the number sign in the title, and the settings
are the description, in YAML.  Without one, the name stands before the first
colon and the settings after it, in words.  A description that is not YAML of the
settings is passed over, and the title is read for settings.

Calendar editors indent with no-break spaces, so these count as blanks in YAML.
-/

namespace HomeClimate

namespace SettingsDocument

/-- The economizer's settings of a period, which has no field but the known ones. -/
def economizer? (d : Document) : Option (EconomizerSettings Float) := do
  let f ← d.fields? EconomizerSettings.fieldNames true
  let enabled ← f.nullable? "enabled" Document.asBool?
  let delta ← f.required? "changeover-delta" Document.asDouble?
  let target ← f.required? "target-temperature" Document.asDouble?
  let keeps ← f.nullable? "keep-hvac-on" Document.asBool?
  let power ← f.nullable? "max-power" Document.asDouble?
  let standard := EconomizerSettings.ofTarget delta target
  return { standard with
    enabled := enabled.or standard.enabled
    keepsHvacOn := keeps.getD standard.keepsHvacOn
    maxPower := power.getD standard.maxPower }

/-- The settings of a period, which have no field but the known ones. -/
def zone? (d : Document) : Option (ZoneSettings Float) := do
  let f ← d.fields? ZoneSettings.fieldNames true
  let enabled ← f.nullable? "enabled" Document.asBool?
  let setpoint ← f.nullable? "setpoint" Document.asDouble?
  let voting ← f.nullable? "voting" Document.asBool?
  let dumpPriority ← f.nullable? "dump-priority" Document.asInteger32?
  let economizer ← f.nullable? "economizer" economizer?
  return { enabled, setpoint, voting, dumpPriority, economizer }

/-- The settings of a YAML text. -/
def read (text : String) : Except (ScheduleError Float) (ZoneSettings Float) :=
  let cleaned := text.toList.map fun c => if c.toNat = 0xA0 then ' ' else c
  match (Yaml.read? (String.ofList cleaned)).bind zone? with
  | none => .error .yaml
  | some s =>
    match s.economizer with
    | none => .ok s
    | some e =>
      match checkEconomizerSettings e with
      | .ok () => .ok s
      | .error e => .error (.zone e)

end SettingsDocument

namespace CalendarEvent

/-- The description, if it says anything. -/
def written (description : Option String) : Option String :=
  description.filter fun d => !Text.isBlankText d

/-- The name of the period of an event. -/
def periodName (title : String) (description : Option String) :
    Except (ScheduleError Float) String :=
  let cs := title.toList
  match written description with
  | none =>
    match Text.cutAt? (· = ':') cs with
    | some (c :: before, _) => .ok (Text.trimText (String.ofList (c :: before)))
    | _ => .error (.badTitle title .noColon)
  | some _ =>
    let name := Text.trim (cs.takeWhile (· ≠ '#'))
    if name.isEmpty then .error (.badTitle title .noName) else .ok (String.ofList name)

/-- The settings of a title: what follows its first colon, or all of it. -/
def titleSettings (title : String) : Except (ScheduleError Float) (ZoneSettings Float) :=
  match Text.cutAt? (· = ':') title.toList with
  | some (_, after) => SettingsText.read (String.ofList after)
  | none => SettingsText.read title

/-- The settings of an event. -/
def settings (title : String) (description : Option String) :
    Except (ScheduleError Float) (ZoneSettings Float) :=
  match (written description).map SettingsDocument.read with
  | some (.ok s) => .ok s
  | _ => titleSettings title

/-- The name of the period of an event, and its settings. -/
def read (title : String) (description : Option String) :
    Except (ScheduleError Float) (String × ZoneSettings Float) := do
  let name ← periodName title description
  let settings ← settings title description
  return (name, settings)

end CalendarEvent

end HomeClimate
