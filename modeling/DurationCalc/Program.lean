import DurationCalc.Binary64.Decimal
import DurationCalc.Cell
import DurationCalc.CommandLine.Request
import DurationCalc.Output.Report
import DurationCalc.Settings.Load

/-!
# The program

What a request prints and how it ends, given everything around the program that
it may look at: the settings files, the environment variables and the input.
The settings are looked at only when the request needs them.
-/

namespace DurationCalc

open CommandLine (RateChoice Layout Request)

/-- What the program can see besides its arguments. -/
structure Surroundings where
  folder : Settings.Folder
  environment : List (String × String)
  input : String
  /-- What loading the settings leaves open is settled by each run anew. -/
  leeway : Settings.Leeway := .written

/--
How a run ends. Lines of the log, which go to the error output as well, are no part
of what is printed here, and neither are the colours that a terminal may be given.
-/
inductive Outcome where
  /-- The arguments make no sense. -/
  | refused
  /-- The settings were needed and could not be loaded. -/
  | misconfigured (error : SettingsError)
  /-- The run came to its end, with what it printed and its exit code. -/
  | done (code : Nat) (output errors : String)
deriving DecidableEq

namespace Program

def versionText : String := "addtime 0.1.0\n"

/--
A text for help. It names the commands and options there are, but in words made up
here: the wording of help and of complaints about arguments is not modelled.
-/
def usageText : String :=
  "Add and subtract durations like 1h30m - 45s\n\n" ++
  "Usage: addtime [--debug] [--config PATH] [COMMAND]\n\n" ++
  "Commands:\n" ++
  "  add     Sum durations\n" ++
  "  calc    Evaluate comma-separated duration expressions\n" ++
  "  config  Show the effective configuration\n" ++
  "  div     Ratio of two durations\n" ++
  "  help    Print this message\n" ++
  "  repl    Evaluate each line read from stdin\n" ++
  "  sub     Subtract one duration from another\n"

def rateOf (around : Surroundings) : RateChoice → Except SettingsError Rate
  | .given rate => .ok rate
  | .fromSettings path =>
      (Settings.load around.folder around.environment path around.leeway).map Settings.rate

def printed (line : String) : Outcome :=
  .done 0 (line ++ "\n") ""

def failed (message : String) : Outcome :=
  .done 1 "" ("error: " ++ message ++ "\n")

def ofCells : Except CellError String → Outcome
  | .ok text => printed text
  | .error error => failed error.message

/-- A ratio as it is shown: the number itself, and in percent with two places. -/
def ratioText (ratio : Binary64) : String :=
  ratio.shortestText ++ " (" ++ (ratio.scale 100).fixedText 2 ++ "%)"

/-- Show the results of a calculation. It fails when some expression did. -/
def showResults (layout : Layout) (results : List (Except Expression.Fault Span)) : Outcome :=
  let report := Report.ofValues results
  let code := if report.hasComplaints then 1 else 0
  match layout with
  | .lists => .done code (Output.listText report.answers) (Output.listText report.complaints)
  | .json => .done code (Output.reportJson report) ""
  | .table => .done code (Output.resultTable results) ""

/-- What one line of the input makes the program print: to the output and to the error output. -/
def respond (rate : Rate) (line : String) : String × String :=
  let report := calculate line rate
  (Output.listText report.answers, Output.listText report.complaints)

/-- What all lines of the input make the program print. A faulty line stops nothing. -/
def transcript (rate : Rate) (input : String) : String × String :=
  let responses := (Text.lines input.toList).map fun line =>
    respond rate (String.ofList (Text.withoutReturn line))
  (String.join (responses.map Prod.fst), String.join (responses.map Prod.snd))

def perform (around : Surroundings) : Request → Outcome
  | .help => .done 0 usageText ""
  | .version => .done 0 versionText ""
  | .nothing => .done 0 "" ""
  | .evaluate choice layout words =>
      match rateOf around choice with
      | .ok rate => showResults layout (evaluate (" ".intercalate words) rate)
      | .error error => .misconfigured error
  | .add cells => ofCells (Cell.sum [cells])
  | .subtract minuend subtrahend => ofCells (Cell.difference minuend subtrahend)
  | .divide dividend divisor => ofCells ((Cell.ratio dividend divisor).map ratioText)
  | .interact choice =>
      match rateOf around choice with
      | .ok rate =>
          let (output, errors) := transcript rate around.input
          .done 0 output errors
      | .error error => .misconfigured error
  | .settings path =>
      match Settings.load around.folder around.environment path around.leeway with
      | .ok settings => .done 0 settings.text ""
      | .error error => .misconfigured error

def run (around : Surroundings) (arguments : List String) : Outcome :=
  match Request.ofArguments arguments with
  | some request => perform around request
  | none => .refused

end Program

end DurationCalc
