import DurationCalc.CommandLine.Grammar

/-!
# Scanning the command line

Arguments are taken from left to right. An option is recognised by its shape and
name; an argument that only looks like an option is a word where the next word
may start with a hyphen. No option is given twice on one level. Two hyphens end
the options, and so does the first word of a command that takes any number of
words.
-/

namespace DurationCalc.CommandLine

/-- What has been taken on one level of the command line. -/
structure Scan where
  switches : List Switch := []
  fields : List (Field × String) := []
  /-- A field that still waits for its value. -/
  pending : Option Field := none
  words : List String := []
  /-- Every further argument is a word. -/
  wordsOnly : Bool := false
deriving DecidableEq, Repr

/-- What one argument leads to. -/
inductive Step where
  | go (scan : Scan)
  /-- The rest of the line belongs to a command. -/
  | enter (command : Command)
  /-- The rest of the line names commands to explain. -/
  | explain
  | help
  | version
  | refuse
deriving DecidableEq, Repr

namespace Scan

def valueOf? (scan : Scan) (field : Field) : Option String :=
  scan.fields.lookup field

/-- Take a switch. Those that ask for information end the scan. -/
def takeSwitch (scan : Scan) (switch : Switch) : Step :=
  if scan.pending.isSome then .refuse
  else match switch with
  | .help => .help
  | .version => .version
  | .debug | .json | .table =>
      if scan.switches.contains switch then .refuse
      else .go { scan with switches := switch :: scan.switches }

def takeValue (scan : Scan) (field : Field) (value : String) : Step :=
  if (scan.valueOf? field).isSome || !field.admits value then .refuse
  else .go { scan with fields := (field, value) :: scan.fields, pending := none }

def takeField (scan : Scan) (field : Field) (attached : Option String) : Step :=
  if scan.pending.isSome then .refuse
  else match attached with
  | some value => scan.takeValue field value
  | none => .go { scan with pending := some field }

def takeWord (scan : Scan) (level : Level) (word : String) : Step :=
  if Level.hasRoom level scan.words.length then
    .go { scan with
      words := scan.words ++ [word]
      wordsOnly := scan.wordsOnly || Level.takesAllWords level }
  else .refuse

/-- Take an argument that is no option: the value of the field that waits for one, else a word. -/
def takePlain (scan : Scan) (level : Level) (argument : String) : Step :=
  match scan.pending with
  | some field => scan.takeValue field argument
  | none => scan.takeWord level argument

/-- Take an argument that looks like an option but is none; it needs room for a word. -/
def takeHyphenated (scan : Scan) (level : Level) (argument : String) : Step :=
  if Level.hasRoom level scan.words.length then scan.takePlain level argument else .refuse

def takeLetters (scan : Scan) (level : Level) : List Char → Step
  | [] => .go scan
  | letter :: later =>
      match Level.switchLettered? level letter with
      | none => .refuse
      | some switch =>
          match scan.takeSwitch switch with
          | .go next => next.takeLetters level later
          | other => other

/-- Take an argument that has not been ruled out as an option. -/
def takeShaped (scan : Scan) (level : Level) (argument : String) : Step :=
  match Shape.ofArgument argument with
  | .endOfOptions =>
      if scan.pending.isSome then .refuse else .go { scan with wordsOnly := true }
  | .long name attached =>
      match Level.switchNamed? level name with
      | some switch => if attached.isSome then .refuse else scan.takeSwitch switch
      | none =>
          match Level.fieldNamed? level name with
          | some field => scan.takeField field attached
          | none => scan.takeHyphenated level argument
  | .letters letters =>
      if Level.hasRoom level scan.words.length
          && letters.any fun letter => (Level.switchLettered? level letter).isNone then
        scan.takePlain level argument
      else scan.takeLetters level letters
  | .word => scan.takePlain level argument

def step (scan : Scan) (level : Level) (argument : String) : Step :=
  if scan.wordsOnly then scan.takeWord level argument
  else if level.isNone && scan.pending.isNone then
    match Command.ofName? argument with
    | some command => .enter command
    | none =>
        if argument = helpWord then .explain else scan.takeShaped level argument
  else scan.takeShaped level argument

/-- Two options that exclude each other were given. -/
def hasConflict (scan : Scan) : Bool :=
  ((scan.valueOf? .rate).isSome && (scan.valueOf? .frames).isSome)
    || (scan.switches.contains .json && scan.switches.contains .table)

/-- The scan may end here: no field waits, there is no conflict, and the words are enough. -/
def isComplete (scan : Scan) (level : Level) : Bool :=
  scan.pending.isNone && !scan.hasConflict && Level.isSatisfied level scan.words.length

end Scan

/-- What the arguments of a command line amount to. -/
inductive Arguments where
  | help
  | version
  | refused
  /-- No command was named. -/
  | bare (program : Scan)
  | named (program : Scan) (command : Command) (own : Scan)
deriving DecidableEq, Repr

namespace Arguments

def ofCommand (program : Scan) (command : Command) : Scan → List String → Arguments
  | own, [] => if own.isComplete (some command) then .named program command own else .refused
  | own, argument :: later =>
      match own.step (some command) argument with
      | .go next => ofCommand program command next later
      | .help => .help
      | .version => .version
      | .enter _ | .explain | .refuse => .refused

def isTopic (word : String) : Bool :=
  (Command.ofName? word).isSome || word = helpWord

/-- Scan all arguments, from what has been taken of them so far. -/
def ofProgram : Scan → List String → Arguments
  | program, [] => if program.isComplete none then .bare program else .refused
  | program, argument :: later =>
      match program.step none argument with
      | .go next => ofProgram next later
      | .enter command => ofCommand program command {} later
      | .explain =>
          match later with
          | [] => .help
          | [topic] => if isTopic topic then .help else .refused
          | _ => .refused
      | .help => .help
      | .version => .version
      | .refuse => .refused

def ofList (arguments : List String) : Arguments :=
  ofProgram {} arguments

end Arguments

end DurationCalc.CommandLine
