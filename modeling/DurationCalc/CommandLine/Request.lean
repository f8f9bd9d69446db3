import DurationCalc.CommandLine.Scan

/-!
# Requests

What a command line asks for, with everything decided that the command line
alone decides. Where no rate was chosen, the settings have to be asked.
-/

namespace DurationCalc.CommandLine

inductive RateChoice where
  | given (rate : Rate)
  /-- From the settings, with the path of their file if one was given. -/
  | fromSettings (path : Option String)
deriving DecidableEq

inductive Layout where
  | lists
  | json
  | table
deriving DecidableEq, Repr

inductive Request where
  | help
  | version
  | nothing
  | evaluate (rate : RateChoice) (layout : Layout) (words : List String)
  | add (cells : List String)
  | subtract (minuend subtrahend : String)
  | divide (dividend divisor : String)
  | interact (rate : RateChoice)
  | settings (path : Option String)
deriving DecidableEq

/-- The path of the settings file; one given after the command counts before one given ahead of it. -/
def settingsPath (program own : Scan) : Option String :=
  (own.valueOf? .settingsPath).or (program.valueOf? .settingsPath)

def rateChoice (program own : Scan) : RateChoice :=
  let chosen := ((own.valueOf? .rate).bind fun text => (Rate.ofText text).toOption).or
    ((own.valueOf? .frames).bind frameRate?)
  match chosen with
  | some rate => .given rate
  | none => .fromSettings (settingsPath program own)

def layoutOf (own : Scan) : Layout :=
  if own.switches.contains .json then .json
  else if own.switches.contains .table then .table
  else .lists

def commandRequest (program : Scan) (command : Command) (own : Scan) : Option Request :=
  match command, own.words with
  | .evaluate, words => some (.evaluate (rateChoice program own) (layoutOf own) words)
  | .add, words => some (.add words)
  | .subtract, [minuend, subtrahend] => some (.subtract minuend subtrahend)
  | .divide, [dividend, divisor] => some (.divide dividend divisor)
  | .interact, [] => some (.interact (rateChoice program own))
  | .settings, [] => some (.settings (settingsPath program own))
  | _, _ => none

/-- The request of a command line, if it is a proper one. -/
def Request.ofArguments (arguments : List String) : Option Request :=
  match Arguments.ofList arguments with
  | .help => some .help
  | .version => some .version
  | .refused => none
  | .bare _ => some .nothing
  | .named program command own => commandRequest program command own

end DurationCalc.CommandLine
