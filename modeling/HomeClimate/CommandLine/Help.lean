import HomeClimate.CommandLine.Grammar
import HomeClimate.Number.Layout

/-!
# Help texts

A help text says what a command does, how it is written, and what its arguments
are.  Arguments and their explanations stand in two columns.
-/

namespace HomeClimate.CommandLine

/-- Rows of two columns, under a heading. -/
def columns (heading : String) (rows : List (String × String)) : String :=
  let width := (rows.map fun r => r.1.length).foldl max 0
  heading ++ ":\n" ++
    String.join (rows.map fun r => "  " ++ padRight width r.1 ++ "  " ++ r.2 ++ "\n")

/-- An option as its row shows it. -/
def Choice.label (c : Choice) : String :=
  let letter := match c.letter with
    | some l => "-" ++ l.toString ++ ", "
    | none => "    "
  let value := match c.value with
    | some v => " <" ++ v ++ ">"
    | none => ""
  letter ++ "--" ++ c.name ++ value

/-- The row that every command has. -/
def helpRow : String × String := ("-h, --help", "Print help")

/-- How a command of a program is written. -/
def CommandForm.usage (program : String) (s : CommandForm) : String :=
  program ++ " " ++ s.name ++ (if s.choices.isEmpty then "" else " [OPTIONS]") ++
    String.join (s.positionals.map fun p => " <" ++ p.name ++ ">")

/-- The help text of a command of a program. -/
def CommandForm.helpText (program : String) (s : CommandForm) : String :=
  s.help ++ "\n\nUsage: " ++ s.usage program ++ "\n\n" ++
    columns "Arguments" (s.positionals.map fun p => ("<" ++ p.name ++ ">", p.help)) ++ "\n" ++
    columns "Options" (s.choices.map (fun c => (c.label, c.help)) ++ [helpRow])

/-- What the command for help does. -/
def aboutHelp : String := "Print this message or the help of the given subcommand(s)"

/-- The help text of a program. -/
def programHelp (program about : String) (commands : List CommandForm) : String :=
  about ++ "\n\nUsage: " ++ program ++ " <COMMAND>\n\n" ++
    columns "Commands" (commands.map (fun s => (s.name, s.help)) ++ [("help", aboutHelp)]) ++
    "\n" ++ columns "Options" [helpRow]

/-- The help text of the command for help. -/
def helpHelp (program : String) : String :=
  aboutHelp ++ "\n\nUsage: " ++ program ++ " help [COMMAND]...\n\n" ++
    columns "Arguments" [("[COMMAND]...", "Print help for the subcommand(s)")]

end HomeClimate.CommandLine
