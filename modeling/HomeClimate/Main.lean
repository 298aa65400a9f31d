import HomeClimate.CommandLine.Program
import Std.Time.Zoned

/-!
# The outer layer of the program

Reads the files that a command line names and the clock, asks for the answer, and
prints it.
-/

namespace HomeClimate.CommandLine

/-- The content of a file, if it can be read. -/
def readFile? (path : String) : IO (Option String) := do
  try
    return some (← IO.FS.readFile path)
  catch _ =>
    return none

/-- The local time of the clock. -/
def readClock : IO Instant := do
  let now ← Std.Time.PlainDateTime.now
  let date : CivilDate := ⟨now.date.year.toInt, now.date.month.val.toNat, now.date.day.val.toNat⟩
  let time := now.time
  return ⟨date.toDay, .ofClock time.hour.val.toNat time.minute.val.toNat time.second.val.toNat
    time.nanosecond.val.toNat⟩

/-- The files of a command, those that can be read. -/
def readFiles (paths : List String) : IO (List (String × Option String)) :=
  paths.mapM fun path => do return (path, ← readFile? path)

/-- Runs the program on a command line and gives its status. -/
def runProgram (words : List String) : IO UInt32 := do
  let paths := ((taskOf? words).map Task.paths).getD []
  let files ← readFiles paths
  let content? := fun path => (files.find? fun f => f.1 == path).bind Prod.snd
  let result := answer ⟨content?, ← readClock⟩ words
  (← IO.getStdout).putStr result.output
  match result.error with
  | some e => IO.eprintln ("Error: " ++ e.message)
  | none =>
    if result.status ≠ 0 then IO.eprint (programHelp programName programAbout commands)
  return result.status.toUInt32

end HomeClimate.CommandLine

/-- The program. -/
def main (words : List String) : IO UInt32 := HomeClimate.CommandLine.runProgram words
