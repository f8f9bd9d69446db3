import DurationCalc.Settings.Json
import DurationCalc.Settings.Toml.Document

/-!
# Settings files

A file is named by a path. A path that names a file in a known format means that
file; otherwise the endings of the known formats are tried behind it, so that
`studio` finds `studio.toml`. A leading tilde stands for the home folder.
-/

namespace DurationCalc.Settings

inductive Format where
  | toml
  | json
  | yaml
  | ini
  | ron
  | json5
deriving DecidableEq, Repr

namespace Format

def all : List Format := [.toml, .json, .yaml, .ini, .ron, .json5]

def endings : Format → List String
  | .toml => ["toml"]
  | .json => ["json"]
  | .yaml => ["yaml", "yml"]
  | .ini => ["ini"]
  | .ron => ["ron"]
  | .json5 => ["json5"]

/--
The named settings that a text in the format holds, if it is well formed. TOML and
JSON are read here. For the other formats there is no reader in this library, and
`foreign` stands for the one that reads them.
-/
def read? (foreign : Format → String → Option (List (String × Setting))) :
    Format → String → Option (List (String × Setting))
  | .toml => Toml.read?
  | .json => Json.read?
  | format => foreign format

end Format

/-- The files that can be read, by path, and the home folder. -/
structure Folder where
  home : Option String
  files : List (String × String)

/-- The components of a path; empty ones and single dots mean nothing. -/
def components (path : String) : List (List Char) :=
  (Text.splitAtEach '/' path.toList).filter fun component => component ≠ [] && component ≠ ['.']

def isAbsolute (path : String) : Bool :=
  path.toList.head? = some '/'

/-- Two paths name the same file when they have the same components and the same start. -/
def samePath (left right : String) : Bool :=
  isAbsolute left = isAbsolute right && components left = components right

/-- Whether a path ends with the name of a file, so that it could name one. -/
def endsInName (path : String) : Bool :=
  match (Text.splitAtEach '/' path.toList).getLast? with
  | some name => name ≠ [] && name ≠ ['.'] && name ≠ ['.', '.']
  | none => false

/-- The format that the ending of a path stands for. A name needs something before its ending. -/
def formatOf? (path : String) : Option Format := do
  let name ← (components path).getLast?
  let pieces := Text.splitAtEach '.' name
  let ending ← pieces.getLast?
  if pieces.dropLast.flatten = [] && pieces.length ≤ 2 then none
  else Format.all.find? fun format => format.endings.contains (String.ofList ending)

/-- A text without the byte order mark that may start it. -/
def withoutMark (text : String) : String :=
  match text.toList with
  | '\ufeff' :: rest => String.ofList rest
  | _ => text

namespace Folder

def read? (folder : Folder) (path : String) : Option String :=
  (folder.files.find? fun file => samePath file.1 path).map fun file => withoutMark file.2

def expand (folder : Folder) (path : String) : String :=
  match path.toList, folder.home with
  | '~' :: [], some home => home
  | '~' :: '/' :: rest, some home => home ++ String.ofList ('/' :: rest)
  | _, _ => path

end Folder

/-- A path with an ending behind its last component. -/
def withEnding (path ending : String) : Option String :=
  match (components path).getLast? with
  | none => none
  | some name =>
      if name = ['.', '.'] then none
      else
        let start := if isAbsolute path then ['/'] else []
        some (String.ofList (start ++ Text.joinWith ['/'] (components path)) ++ "." ++ ending)

inductive Found where
  | nothing
  | unknown
  | file (format : Format) (text : String)

/-- The file that a path leads to with one of the endings of a format. -/
def Folder.findAs (folder : Folder) (path : String) (format : Format) : Option Found :=
  (format.endings.filterMap (withEnding path)).findSome? fun tried =>
    (folder.read? tried).map (Found.file format)

/--
Look for a settings file: first under the path itself, then behind the endings of
the formats, which are tried in the order given.
-/
def Folder.find (folder : Folder) (path : String) (formats : List Format) : Found :=
  match if endsInName path then folder.read? path else none with
  | some text =>
      match formatOf? path with
      | some format => .file format text
      | none => .unknown
  | none => (formats.findSome? (folder.findAs path)).getD .nothing

/-- All paths at which `find` may look. -/
def candidates (path : String) : List String :=
  path :: (Format.all.flatMap Format.endings).filterMap (withEnding path)

end DurationCalc.Settings
