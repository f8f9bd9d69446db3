import DurationCalc.Rate
import DurationCalc.Settings.Folder
import DurationCalc.Settings.Path
import DurationCalc.Settings.Variable

/-!
# Loading the settings

The settings come in layers. Environment variables lie over a settings file, and
what these two give together lies over the default, which is milliseconds. The
layers are merged key by key before anything is checked, so a value that is
overridden need not make sense. The names in a file and those of the variables
are written paths, and within a layer they have no order: it is left to chance in
which they are laid. In the end the only setting that matters is the rate of the
calculator.
-/

namespace DurationCalc

structure Settings where
  /-- The rate of calculations for which none was chosen. -/
  rate : Rate
deriving DecidableEq

inductive SettingsError where
  | missingFile (path : String)
  | unknownFormat (path : String)
  | malformedFile (path : String)
  /-- The rate is not a number, or there is none. -/
  | notACount
  | invalidRate (error : RateError)
deriving DecidableEq

def SettingsError.message : SettingsError → String
  | .missingFile path => "configuration file \"" ++ path ++ "\" not found"
  | .unknownFormat path =>
      "configuration file \"" ++ path ++ "\" is not of a registered file format"
  | .malformedFile path => "configuration file \"" ++ path ++ "\" is malformed"
  | .notACount => "invalid type for key \"calculator.quantum_per_second\""
  | .invalidRate error => error.message

namespace Settings

/-- The path that is tried when none is given. -/
def defaultPath : String := "addtime"

def tableKey : String := "calculator"

def rateKey : String := "quantum_per_second"

def defaults : Setting :=
  .table [(tableKey, .table [(rateKey, .integer Rate.milliseconds.perSecond)])]

/-- An order in which named settings come out of a map that keeps none. -/
structure Arrangement where
  arrange : List (String × Setting) → List (String × Setting)
  perm : ∀ named, (arrange named).Perm named

namespace Arrangement

/-- The order in which they were put in. -/
def written : Arrangement := ⟨id, List.Perm.refl⟩

def reversed : Arrangement := ⟨List.reverse, List.reverse_perm⟩

end Arrangement

/--
What loading leaves open. The formats and the named settings of a layer come out of
hash maps, so the order in which endings are tried and names are laid may differ from
one run to the next. And there are formats whose readers are not part of this library.
-/
structure Leeway where
  formats : List Format
  formats_perm : formats.Perm Format.all
  ofFile : Arrangement
  ofVariables : Arrangement
  foreign : Format → String → Option (List (String × Setting))

/-- All in the order in which it is written, and texts in foreign formats taken for malformed. -/
def Leeway.written : Leeway where
  formats := Format.all
  formats_perm := List.Perm.refl _
  ofFile := .written
  ofVariables := .written
  foreign := fun _ _ => none

/-- The layer of a file: a given path has to lead to one, the default path need not. -/
def fileLayer (folder : Folder) (path : Option String) (leeway : Leeway) :
    Except SettingsError (List (String × Setting)) :=
  let tried := (path.map folder.expand).getD defaultPath
  match folder.find tried leeway.formats with
  | .nothing => if path.isSome then .error (.missingFile tried) else .ok []
  | .unknown => if path.isSome then .error (.unknownFormat tried) else .ok []
  | .file format text =>
      match format.read? leeway.foreign text with
      | some named => .ok named
      | none => .error (.malformedFile tried)

/-- The tree of all layers: the default, and over it what a file and the variables give. -/
def merged (file layer : List (String × Setting)) : Setting :=
  defaults.overlay (Setting.ofNamed (file ++ layer))

/-- The tree of all layers, with what they hold in the order that it happens to come out. -/
def arranged (file : List (String × Setting)) (environment : List (String × String))
    (leeway : Leeway) : Setting :=
  merged (leeway.ofFile.arrange file) (leeway.ofVariables.arrange (ofEnvironment environment))

/--
The setting of the rate. It stands under its key in its table, or comes first if
a sequence has the place of the table.
-/
def rateSetting? (tree : Setting) : Option Setting := do
  match ← tree.lookup tableKey with
  | .sequence items => items.head?
  | table => table.lookup rateKey

def ofSetting (tree : Setting) : Except SettingsError Settings :=
  match (rateSetting? tree).bind Setting.count? with
  | none => .error .notACount
  | some count =>
      match Rate.ofNat count with
      | .ok rate => .ok { rate }
      | .error error => .error (.invalidRate error)

/-- Load the settings. What is left open is taken as it is written unless something else is said. -/
def load (folder : Folder) (environment : List (String × String)) (path : Option String)
    (leeway : Leeway := .written) : Except SettingsError Settings := do
  let file ← fileLayer folder path leeway
  ofSetting (arranged file environment leeway)

def text (settings : Settings) : String :=
  "[" ++ tableKey ++ "]\n" ++ rateKey ++ " = " ++ settings.rate.text ++ "\n"

end Settings

end DurationCalc
