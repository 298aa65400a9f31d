import HomeClimate.Config.Basic
import HomeClimate.Document.Json
import HomeClimate.House.Replay

/-!
# What commands print

The texts of the answers of the command line: the zones of a configuration, the
periods at a time, and what came of a replay, as a text or as a document.
-/

namespace HomeClimate.CommandLine

/-- Lines as a text. -/
def ofLines (lines : List String) : String := String.join (lines.map fun l => l ++ "\n")

/-! ## Zones -/

/-- What is unusual about a zone. -/
def zoneFlags (z : ZoneSummary Float) : List String :=
  (if z.enabled then [] else ["off"]) ++ (if z.voting then [] else ["non-voting"]) ++
    (if z.hasEconomizer then ["economizer"] else [])

/-- A zone on a line. -/
def zoneLine (z : ZoneSummary Float) : String :=
  let number := NumberLayout.plain.write
  let flags := zoneFlags z
  "  " ++ z.name ++ " - setpoint " ++ number z.setpoint ++ " (" ++ number z.range.min ++ ".." ++
    number z.range.max ++ "), " ++ toString z.sources ++ " sources, median " ++
    toString z.medianDepth ++ ", " ++ toString z.periods ++ " periods " ++
    (if flags.isEmpty then "" else Text.showList flags)

/-- The zones of a configuration. -/
def zonesText (c : SystemConfig Float) : String :=
  let head := "Zones in " ++ c.name ++ " (unit: " ++ c.unit.name ++ ", " ++ c.unit.mode.name ++ "):"
  ofLines (head :: c.summaries.map zoneLine)

/-! ## Periods -/

/-- A local time up to its minute, with the day of the week. -/
def minuteText (t : Instant) : String :=
  weekdayName t.day ++ " " ++ (CivilDate.ofDay t.day).text ++ " " ++ t.time.shortText

/-- The period in effect in a zone, on a line. -/
def periodLine (schedules : Table String (Schedule Float)) (at_ : Instant) (zone : String) :
    String :=
  match (schedules.get? zone).bind fun schedule => bestMatch? schedule at_ with
  | some (period, settings) => "  " ++ zone ++ ": " ++ period.text ++ " -> " ++ settings.text
  | none => "  " ++ zone ++ ": no period"

/-- The periods in effect in some zones. -/
def periodsText (schedules : Table String (Schedule Float)) (at_ : Instant) (zones : List String) :
    String :=
  ofLines (("Periods at " ++ minuteText at_ ++ ":") :: zones.map (periodLine schedules at_))

/-! ## Replays -/

/-- A command on a line. -/
def commandLine (r : UnitRecord Float) : String :=
  "  " ++ (CivilDate.ofDay r.time.day).text ++ " " ++ r.time.time.clockText ++ "  demand " ++
    padLeft 7 (writeFixed 3 r.demand) ++ " -> power " ++ writeFixed 2 r.command.demand ++
    ", fan " ++ writeFixed 2 r.command.fanSpeed

/-- What came of a replay, as a text. -/
def replayText (r : ReplayReport Float) : String :=
  ofLines
    (["Replayed " ++ toString r.readings ++ " readings (" ++ toString r.unrouted ++ " unrouted)"] ++
      (if r.schedule.isEmpty then []
        else "" :: "Schedule:" :: r.schedule.map fun e => "  " ++ e.text) ++
      ["", "Unit commands:"] ++
      (if r.commands.isEmpty then ["  none"] else r.commands.map commandLine) ++
      ["", "Zones:"] ++
      r.zones.map fun e => "  " ++ e.1 ++ ": " ++ e.2.name)

/-- The state of a zone as a document names it. -/
def stateLabel : ZoneState → String
  | .error => "Error"
  | .off => "Off"
  | .calling => "Calling"
  | .happy => "Happy"

/-- A command as a record. -/
def commandDocument (c : Command Float) : Document :=
  .record
    [("mode", match c.mode with
        | some m => .text m.name
        | none => .null),
     ("demand", .ofDouble c.demand), ("fan_speed", .ofDouble c.fanSpeed)]

/-- A command with its time and its demand, as a record. -/
def recordDocument (r : UnitRecord Float) : Document :=
  .record [("at", .text r.time.documentText), ("demand", .ofDouble r.demand),
    ("command", commandDocument r.command)]

/-- What came of a replay, as a record. -/
def replayDocument (r : ReplayReport Float) : Document :=
  .record
    [("commands", .list (r.commands.map recordDocument)),
     ("zones", .record (r.zones.map fun e => (e.1, .text (stateLabel e.2)))),
     ("schedule", .list (r.schedule.map fun e => .text e.text)),
     ("readings", .ofNatural r.readings), ("unrouted", .ofNatural r.unrouted)]

end HomeClimate.CommandLine
