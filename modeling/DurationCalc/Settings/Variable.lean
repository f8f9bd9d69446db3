import DurationCalc.Settings.Setting
import DurationCalc.Text.Decimal

/-!
# Settings in environment variables

A variable gives one setting. Its name starts with the program's own mark, and
the rest of it names the setting, with two underscores where a written path has
a point. Upper and lower case are the same in the name. The value is taken for a
truth value, a whole number or a fraction if it reads as one, and stays a text
otherwise.
-/

namespace DurationCalc.Settings

/-- What the names of the program's variables start with, in lower case. -/
def variableMark : List Char := "addtime_".toList

/-- Write a point for each pair of underscores, from the left. -/
def withPoints : List Char → List Char
  | [] => []
  | '_' :: '_' :: rest => '.' :: withPoints rest
  | character :: rest => character :: withPoints rest

/-- The name of the setting that a variable with this name gives, if it gives one. -/
def settingName? (name : String) : Option String :=
  let lowered := Text.lowercase name.toList
  if variableMark.isPrefixOf lowered then
    some (String.ofList (withPoints (lowered.drop variableMark.length)))
  else none

/-- The setting that the value of a variable stands for. -/
def variableSetting (value : String) : Setting :=
  let characters := value.toList
  let word := String.ofList (Text.lowercase characters)
  if word = "true" then .truth true
  else if word = "false" then .truth false
  else match (Text.signedNumeral? characters).filter Setting.isSignedWord with
  | some number => .integer number
  | none => match Text.binary64? characters with
    | some number => .fraction number
    | none => .text value

/--
The settings that the variables give, one for each name. Of the variables that give
the same setting the last one counts.
-/
def ofEnvironment (environment : List (String × String)) : List (String × Setting) :=
  environment.foldl (fun given (name, value) =>
    match settingName? name with
    | some setting => Setting.putEntry setting (variableSetting value) given
    | none => given) []

example : settingName? "ADDTIME_Calculator__QUANTUM_PER_SECOND" =
    some "calculator.quantum_per_second" := by decide +kernel
example : settingName? "PATH" = none := by decide +kernel

end DurationCalc.Settings
