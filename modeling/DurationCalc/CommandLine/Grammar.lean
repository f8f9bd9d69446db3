import DurationCalc.Rate
import DurationCalc.Text.Split

/-!
# The grammar of the command line

The arguments begin with options of the program itself, then name a command, and
go on with the command's own options and words. This module says which commands
there are and what each level of the command line takes.
-/

namespace DurationCalc.CommandLine

inductive Command where
  | evaluate
  | add
  | subtract
  | divide
  /-- Evaluate every line of the input. -/
  | interact
  | settings
deriving DecidableEq, Repr

def Command.ofName? : String → Option Command
  | "calc" | "c" => some .evaluate
  | "add" => some .add
  | "sub" => some .subtract
  | "div" | "ratio" => some .divide
  | "repl" => some .interact
  | "config" => some .settings
  | _ => none

def helpWord : String := "help"

inductive Switch where
  /-- Ask for a full log. It is accepted everywhere, and the log is no part of an outcome. -/
  | debug
  | help
  | version
  | json
  | table
deriving DecidableEq, Repr

/-- Options with a value. -/
inductive Field where
  | settingsPath
  | rate
  /-- The rate of a calculation, as one of the usual frame rates. -/
  | frames
deriving DecidableEq, Repr

/-- Where on the command line an argument stands: before any command, or after one. -/
abbrev Level := Option Command

namespace Level

def choosesRate (level : Level) : Bool :=
  level = some .evaluate || level = some .interact

def switchNamed? (level : Level) (name : String) : Option Switch :=
  if name = "debug" then some .debug
  else if name = "help" then some .help
  else if name = "version" && level.isNone then some .version
  else if name = "json" && level = some .evaluate then some .json
  else if name = "table" && level = some .evaluate then some .table
  else none

def switchLettered? (level : Level) (letter : Char) : Option Switch :=
  if letter = 'h' then some .help
  else if letter = 'V' && level.isNone then some .version
  else if letter = 't' && level = some .evaluate then some .table
  else none

def fieldNamed? (level : Level) (name : String) : Option Field :=
  if name = "config" then some .settingsPath
  else if name = "qps" && Level.choosesRate level then some .rate
  else if name = "fps" && Level.choosesRate level then some .frames
  else none

/-- From its first word on, everything after these commands is a word. -/
def takesAllWords (level : Level) : Bool :=
  level = some .evaluate || level = some .add

def hasRoom (level : Level) (words : Nat) : Bool :=
  Level.takesAllWords level ||
    ((level = some .subtract || level = some .divide) && words < 2)

def isSatisfied (level : Level) (words : Nat) : Bool :=
  if Level.takesAllWords level then 1 ≤ words
  else if level = some .subtract || level = some .divide then words = 2
  else words = 0

end Level

/-- Video at one of the two usual frame rates. -/
def frameRate? (text : String) : Option Rate :=
  if text = "30" then some .thirtyFrames
  else if text = "60" then some .sixtyFrames
  else none

def Field.admits : Field → String → Bool
  | .settingsPath, _ => true
  | .rate, value => (Rate.ofText value).isOk
  | .frames, value => (frameRate? value).isSome

inductive Shape where
  /-- Two hyphens alone: all that follows are words. -/
  | endOfOptions
  /-- Two hyphens and a name, perhaps with a value after an equals sign. -/
  | long (name : String) (attached : Option String)
  | letters (letters : List Char)
  | word
deriving DecidableEq, Repr

/-- The shape of an argument. A hyphen alone is a word. -/
def Shape.ofArgument (argument : String) : Shape :=
  match argument.toList with
  | ['-', '-'] => .endOfOptions
  | '-' :: '-' :: rest =>
      let (name, attached) := Text.cutAtFirst (fun character => character = '=') rest
      .long (String.ofList name) (attached.map String.ofList)
  | '-' :: letter :: rest => .letters (letter :: rest)
  | _ => .word

end DurationCalc.CommandLine
