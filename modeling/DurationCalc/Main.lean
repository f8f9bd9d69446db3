import DurationCalc.Program

/-!
# The command-line program

Gathers what the program may look at, runs it, and prints what comes back. Input
is answered line by line, as it arrives.
-/

namespace DurationCalc.Main

open CommandLine (Request)

/-- The environment variables of the process, or only the usual one where they cannot be listed. -/
def environmentVariables : IO (List (String × String)) := do
  try
    let listing ← IO.FS.readFile "/proc/self/environ"
    return (listing.splitOn "\x00").filterMap fun entry =>
      match entry.splitOn "=" with
      | name :: value :: more => some (name, "=".intercalate (value :: more))
      | _ => none
  catch _ =>
    let name := "ADDTIME_CALCULATOR__QUANTUM_PER_SECOND"
    return ((← IO.getEnv name).map fun value => (name, value)).toList

/-- The text of a file, if there is one that can be read. -/
def fileText (path : String) : IO (Option (String × String)) := do
  try
    return some (path, ← IO.FS.readFile path)
  catch _ => return none

/-- The settings files that a path may lead to. -/
def settingsFolder (path : Option String) : IO Settings.Folder := do
  let empty : Settings.Folder := { home := ← IO.getEnv "HOME", files := [] }
  let tried := (path.map empty.expand).getD Settings.defaultPath
  let files ← (Settings.candidates tried).mapM fileText
  return { empty with files := files.filterMap id }

def requestedPath : Request → Option String
  | .evaluate (.fromSettings path) _ _ => path
  | .interact (.fromSettings path) => path
  | .settings path => path
  | _ => none

partial def answerLines (rate : Rate) (input output errors : IO.FS.Stream) : IO Unit := do
  let line ← input.getLine
  if line.isEmpty then return ()
  let (shown, complained) := Program.transcript rate line
  output.putStr shown
  output.flush
  errors.putStr complained
  answerLines rate input output errors

def report (outcome : Outcome) : IO UInt32 := do
  match outcome with
  | .refused =>
      (← IO.getStderr).putStr ("error: invalid arguments\n\n" ++ Program.usageText)
      return 2
  | .misconfigured error =>
      (← IO.getStderr).putStr ("error: failed to load configuration: " ++ error.message ++ "\n")
      return 1
  | .done code output errors =>
      (← IO.getStdout).putStr output
      (← IO.getStderr).putStr errors
      return code.toUInt32

def run (arguments : List String) : IO UInt32 := do
  match Request.ofArguments arguments with
  | none => report .refused
  | some request =>
      let around : Surroundings :=
        { folder := ← settingsFolder (requestedPath request)
          environment := ← environmentVariables
          input := "" }
      match request with
      | .interact choice =>
          match Program.rateOf around choice with
          | .ok rate =>
              answerLines rate (← IO.getStdin) (← IO.getStdout) (← IO.getStderr)
              return 0
          | .error error => report (.misconfigured error)
      | _ => report (Program.perform around request)

end DurationCalc.Main

def main (arguments : List String) : IO UInt32 :=
  DurationCalc.Main.run arguments
