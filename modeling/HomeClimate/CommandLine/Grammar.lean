/-!
# The grammar of command lines

A command line names a command first.  What follows are *positionals*, in order,
and *options* anywhere between them.  After two dashes that stand alone all words
are positionals.

An option has a name after two dashes, and perhaps a letter after one.  Its value
stands after an equals sign, after its letter, or in the next word, which must not
look like an option itself.  No option may be given twice.

`CommandForm.read` follows the words from left to right and stops at the first thing
that settles the matter: a wish for help, or a mistake.
-/

namespace HomeClimate.CommandLine

/-! ## Commands -/

/-- An argument by place. -/
structure Positional where
  /-- What it is called in a help text. -/
  name : String
  /-- What it is. -/
  help : String
  /-- Whether it is the name of a file, which is not empty. -/
  isPath : Bool

/-- An argument by name. -/
structure Choice where
  /-- Its name. -/
  name : String
  /-- The letter that stands for it, if it has a value. -/
  letter : Option Char
  /-- What its value is called in a help text, if it has one. -/
  value : Option String
  /-- What it is. -/
  help : String

/-- A command with the arguments that it takes. -/
structure CommandForm where
  /-- Its name. -/
  name : String
  /-- What it does. -/
  help : String
  /-- Its positionals, all of which are needed. -/
  positionals : List Positional
  /-- Its options, none of which is needed. -/
  choices : List Choice

/-- What a command was given. -/
structure Arguments where
  /-- The positionals, in order. -/
  positionals : List String := []
  /-- The options by name, with their values.  One without a value has an empty one. -/
  choices : List (String × String) := []
  deriving Repr, DecidableEq

namespace Arguments

/-- The value of an option. -/
def choice? (a : Arguments) (name : String) : Option String :=
  (a.choices.find? fun c => c.1 == name).map Prod.snd

/-- The arguments with one more option, unless they have it. -/
def choose? (a : Arguments) (name value : String) : Option Arguments :=
  if (a.choice? name).isSome then none
  else some { a with choices := a.choices ++ [(name, value)] }

end Arguments

/-! ## Words -/

/-- What a word that looks like an option says. -/
inductive Word where
  /-- It asks for help. -/
  | help
  /-- It is an option with all that it needs. -/
  | given (name value : String)
  /-- It is an option whose value must follow. -/
  | wants (name : String)
  /-- It is not known, or has a value that it does not take. -/
  | mistake
  deriving Repr, DecidableEq

/-- Whether a word looks like an option.  A dash that stands alone does not. -/
def looksLikeOption (word : String) : Bool :=
  match word.toList with
  | '-' :: _ :: _ => true
  | _ => false

namespace CommandForm

/-- What a word after two dashes says. -/
def longWord (s : CommandForm) (word : List Char) : Word :=
  let name := String.ofList (word.takeWhile (· ≠ '='))
  let value := match word.dropWhile (· ≠ '=') with
    | [] => none
    | _ :: value => some (String.ofList value)
  if name = "help" then if value.isNone then .help else .mistake
  else
    match s.choices.find? fun c => c.name == name, value with
    | none, _ => .mistake
    | some c, some value => if c.value.isSome then .given name value else .mistake
    | some c, none => if c.value.isSome then .wants name else .given name ""

/-- What a word after one dash says. -/
def shortWord (s : CommandForm) (letter : Char) (rest : List Char) : Word :=
  if letter = 'h' then .help
  else
    match s.choices.find? fun c => c.letter == some letter, rest with
    | none, _ => .mistake
    | some c, [] => .wants c.name
    | some c, '=' :: value => .given c.name (String.ofList value)
    | some c, value => .given c.name (String.ofList value)

/-- What a word that looks like an option says. -/
def word (s : CommandForm) (word : String) : Word :=
  match word.toList with
  | '-' :: '-' :: name => s.longWord name
  | '-' :: letter :: rest => s.shortWord letter rest
  | _ => .mistake

/-! ## Reading -/

/-- The arguments with one more positional, if the command takes it. -/
def place? (s : CommandForm) (a : Arguments) (value : String) : Option Arguments :=
  match s.positionals[a.positionals.length]? with
  | none => none
  | some p =>
    if p.isPath && value.isEmpty then none
    else some { a with positionals := a.positionals ++ [value] }

/-- What the words after the name of a command come to. -/
inductive Outcome where
  | help
  | mistake
  | arguments (a : Arguments)
  deriving Repr, DecidableEq

/-- The words after the name of a command, where `a` is what was read before them and `only` says
that all of them are positionals. -/
def readFrom (s : CommandForm) (a : Arguments) (only : Bool) : List String → Outcome
  | [] => if a.positionals.length = s.positionals.length then .arguments a else .mistake
  | w :: rest =>
    if only || !looksLikeOption w then
      match s.place? a w with
      | some a => s.readFrom a only rest
      | none => .mistake
    else if w = "--" then s.readFrom a true rest
    else
      match s.word w, rest with
      | .help, _ => .help
      | .mistake, _ => .mistake
      | .wants _, [] => .mistake
      | .wants name, value :: rest =>
        if looksLikeOption value then .mistake
        else
          match a.choose? name value with
          | some a => s.readFrom a only rest
          | none => .mistake
      | .given name value, rest =>
        match a.choose? name value with
        | some a => s.readFrom a only rest
        | none => .mistake
  termination_by words => words.length
  decreasing_by all_goals simp_all; try omega

/-- The words after the name of a command. -/
def read (s : CommandForm) (words : List String) : Outcome := s.readFrom {} false words

end CommandForm

/-! ## Whole lines -/

/-- What a command line asks for. -/
inductive Request where
  /-- It is not understood. -/
  | mistake
  /-- Help in general. -/
  | help
  /-- Help about help. -/
  | helpAboutHelp
  /-- Help about a command. -/
  | helpAbout (s : CommandForm)
  /-- A command. -/
  | run (s : CommandForm) (a : Arguments)

namespace Request

/-- The command of a name. -/
def find? (commands : List CommandForm) (name : String) : Option CommandForm :=
  commands.find? fun s => s.name == name

/-- What the words after a wish for help ask for. -/
def ofHelp (commands : List CommandForm) : List String → Request
  | [] => .help
  | [name] =>
    match find? commands name with
    | some s => .helpAbout s
    | none => if name = "help" then .helpAboutHelp else .mistake
  | _ => .mistake

/-- What a command line asks for. -/
def ofWords (commands : List CommandForm) : List String → Request
  | [] => .mistake
  | first :: rest =>
    if first = "help" then ofHelp commands rest
    else
      match find? commands first with
      | some s =>
        match s.read rest with
        | .help => .helpAbout s
        | .mistake => .mistake
        | .arguments a => .run s a
      | none =>
        if first = "--help" || first.toList.take 2 = ['-', 'h'] then .help else .mistake

end Request

end HomeClimate.CommandLine
