import HomeClimate.CommandLine.Help
import HomeClimate.CommandLine.Report
import HomeClimate.House.ConfigFile
import HomeClimate.Schedule.Event

/-!
# The program

Five commands about a house.

* `validate`: checks a configuration.
* `zones`: lists its zones.
* `parse-settings`: reads an event of a calendar.
* `match-schedule`: shows the periods at a time.
* `replay`: runs a house over recorded readings.

`answer` is the whole program except for its files and its clock, which it is
given.  It says what to print, with what status to end, and what went wrong.
-/

namespace HomeClimate.CommandLine

/-! ## The commands -/

/-- What the program is called. -/
def programName : String := "zf-cli"

/-- What the program is. -/
def programAbout : String := "ZoneFlow CLI - Multi-zone climate control tool"

/-- The name of the file with the configuration. -/
def configPath : Positional := ⟨"CONFIG_PATH", "Path to the config YAML or JSON file", true⟩

/-- Checks a configuration. -/
def validateForm : CommandForm :=
  ⟨"validate", "Validate config file syntax and structure", [configPath], []⟩

/-- Lists zones. -/
def zonesForm : CommandForm := ⟨"zones", "List zones in a config", [configPath], []⟩

/-- Reads an event. -/
def parseSettingsForm : CommandForm :=
  ⟨"parse-settings", "Parse a calendar event into a period name and zone settings",
    [⟨"TITLE", "Event title, e.g. \"Night: setpoint 18, non-voting\"", false⟩],
    [⟨"description", some 'd', some "DESCRIPTION", "Event description, YAML settings"⟩]⟩

/-- Shows periods. -/
def matchScheduleForm : CommandForm :=
  ⟨"match-schedule", "Show which schedule period every zone is in at a given time", [configPath],
    [⟨"at", none, some "AT", "Local date and time, e.g. 2024-01-15T10:00:00 (defaults to now)"⟩]⟩

/-- Runs a house over readings. -/
def replayForm : CommandForm :=
  ⟨"replay", "Replay recorded readings through the whole system",
    [configPath, ⟨"READINGS_PATH", "Readings, one JSON object per line", true⟩],
    [⟨"json", none, none, "Print the report as JSON"⟩]⟩

/-- All commands. -/
def commands : List CommandForm :=
  [validateForm, zonesForm, parseSettingsForm, matchScheduleForm, replayForm]

/-- What a command is to do. -/
inductive Task where
  | validate (config : String)
  | zones (config : String)
  | parseSettings (title : String) (description : Option String)
  | matchSchedule (config : String) (at_ : Option String)
  | replay (config readings : String) (asJson : Bool)
  deriving Repr, DecidableEq

/-- What a command with its arguments is to do. -/
def Task.of? (s : CommandForm) (a : Arguments) : Option Task :=
  match s.name, a.positionals with
  | "validate", [config] => some (.validate config)
  | "zones", [config] => some (.zones config)
  | "parse-settings", [title] => some (.parseSettings title (a.choice? "description"))
  | "match-schedule", [config] => some (.matchSchedule config (a.choice? "at"))
  | "replay", [config, readings] => some (.replay config readings (a.choice? "json").isSome)
  | _, _ => none

/-! ## What the commands do -/

/-- What the program has at hand: the contents of files that can be read, and a clock. -/
structure Surroundings where
  /-- The content of a file. -/
  content? : String → Option String
  /-- The local time. -/
  localTime : Instant

/-- What a command printed, and what went wrong then. -/
structure Printed where
  /-- The text. -/
  text : String
  /-- The error that ended the command, if one did. -/
  error : Option (HouseError Float) := none

/-- A text, or nothing and an error. -/
def Printed.of : Except (HouseError Float) String → Printed
  | .ok text => ⟨text, none⟩
  | .error e => ⟨"", some e⟩

/-- The configuration of a file. -/
def loadConfig (s : Surroundings) (path : String) :
    Except (HouseError Float) (SystemConfig Float) := ConfigFile.load path (s.content? path)

/-- Checks a configuration.  The file is named before it is read. -/
def validate (s : Surroundings) (path : String) : Printed :=
  let heading := "Validating config: " ++ path ++ "\n"
  match loadConfig s path with
  | .error e => ⟨heading, some e⟩
  | .ok c =>
    ⟨heading ++ "✓ Config is valid (" ++ toString c.zones.length ++ " zones, " ++
      toString c.schedule.length ++ " schedule entries)\n", none⟩

/-- Reads an event. -/
def parseSettings (title : String) (description : Option String) :
    Except (HouseError Float) String := do
  let (name, settings) ← HouseError.ofSchedule (CalendarEvent.read title description)
  return ofLines ["Period:   " ++ name, "Settings: " ++ settings.text]

/-- The local time that is written, or that of the clock. -/
def localTimeOf (s : Surroundings) : Option String → Except (HouseError Float) Instant
  | none => .ok s.localTime
  | some text =>
    match readLocalTime? text with
    | some t => .ok t
    | none => .error (.badLocalTime text)

/-- Shows the periods at a local time. -/
def matchSchedule (s : Surroundings) (path : String) (at_ : Option String) :
    Except (HouseError Float) String := do
  let c ← loadConfig s path
  let schedules ← c.schedules
  let time ← localTimeOf s at_
  return periodsText schedules time (c.zones.map ZoneConfig.name)

/-- The readings of a file. -/
def loadReadings (s : Surroundings) (path : String) :
    Except (HouseError Float) (List (Reading Float)) :=
  match s.content? path with
  | none => .error .unreadableReadings
  | some text => Reading.ofText text

/-- Runs a house over the readings of a file. -/
def replay (s : Surroundings) (config readings : String) (asJson : Bool) :
    Except (HouseError Float) String := do
  let c ← loadConfig s config
  let readings ← loadReadings s readings
  let report ← c.replay readings
  return if asJson then Json.pretty 0 (replayDocument report) ++ "\n" else replayText report

/-- Does what a command is to do. -/
def Task.run (s : Surroundings) : Task → Printed
  | .validate config => CommandLine.validate s config
  | .zones config => .of ((loadConfig s config).map zonesText)
  | .parseSettings title description => .of (CommandLine.parseSettings title description)
  | .matchSchedule config at_ => .of (CommandLine.matchSchedule s config at_)
  | .replay config readings asJson => .of (CommandLine.replay s config readings asJson)

/-- The files that a command reads. -/
def Task.paths : Task → List String
  | .validate config => [config]
  | .zones config => [config]
  | .parseSettings .. => []
  | .matchSchedule config _ => [config]
  | .replay config readings _ => [config, readings]

/-! ## The whole -/

/-- What the program answers. -/
structure Answer where
  /-- What it prints. -/
  output : String
  /-- The status with which it ends. -/
  status : Nat
  /-- What went wrong. -/
  error : Option (HouseError Float)

namespace Answer

/-- A text that is printed. -/
def ofText (text : String) : Answer := ⟨text, 0, none⟩

/-- A command line that is not understood. -/
def mistake : Answer := ⟨"", 2, none⟩

/-- The status that an error ends with.  A fault has one of its own. -/
def statusOf : Option (HouseError Float) → Nat
  | none => 0
  | some (.fault _) => 101
  | some _ => 1

/-- What a command printed, with the status that this ends with. -/
def ofPrinted (p : Printed) : Answer := ⟨p.text, statusOf p.error, p.error⟩

end Answer

/-- What a command line is to do, if it is understood and does not ask for help. -/
def taskOf? (words : List String) : Option Task :=
  match Request.ofWords commands words with
  | .run s a => Task.of? s a
  | _ => none

/-- What the program answers to a command line. -/
def answer (s : Surroundings) (words : List String) : Answer :=
  match Request.ofWords commands words with
  | .mistake => .mistake
  | .help => .ofText (programHelp programName programAbout commands)
  | .helpAboutHelp => .ofText (helpHelp programName)
  | .helpAbout c => .ofText (c.helpText programName)
  | .run c a =>
    match Task.of? c a with
    | some task => .ofPrinted (task.run s)
    | none => .mistake

end HomeClimate.CommandLine
