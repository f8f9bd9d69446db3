import DurationCalc.Settings.Setting

/-!
# Outlines of TOML documents

While a document is read its tables are still open, and how a table came to be
decides what may still be added to it. A table is given once: by its own header,
by the dotted keys that run through it, or only implied by the headers of tables
within it, in which case its own header may still come. A key is given once.
-/

namespace DurationCalc.Settings.Toml

inductive Origin where
  /-- Only headers of tables within it named it. -/
  | implied
  /-- Dotted keys ran through it. -/
  | dotted
  /-- It had its own header. -/
  | headed
deriving DecidableEq, Repr

/-- What stands under a key of an open document. -/
inductive Outline where
  | closed (setting : Setting)
  | table (origin : Origin) (entries : List (String × Outline))
  /-- Tables under headers in double brackets; the last one is open. -/
  | tables (items : List (List (String × Outline)))

abbrev Entries := List (String × Outline)

namespace Entries

/-- Replace what stands under a key, or add it. -/
def assign (key : String) (outline : Outline) : Entries → Entries
  | [] => [(key, outline)]
  | (other, old) :: later =>
      if other = key then (key, outline) :: later else (other, old) :: assign key outline later

/-- Go down a path of headers, through the last table of each series, and change what is there. -/
def descend (change : Entries → Option Entries) : List String → Entries → Option Entries
  | [], entries => change entries
  | key :: later, entries => do
      match entries.lookup key with
      | none =>
          let inner ← descend change later []
          return entries.assign key (.table .implied inner)
      | some (.table origin inner) =>
          let inner ← descend change later inner
          return entries.assign key (.table origin inner)
      | some (.tables items) =>
          let inner ← descend change later (items.getLast?.getD [])
          return entries.assign key (.tables (items.dropLast ++ [inner]))
      | some (.closed _) => none

/-- Go down a dotted key, which must not run through a table with a header of its own. -/
def descendDotted (change : Entries → Option Entries) : List String → Entries → Option Entries
  | [], entries => change entries
  | key :: later, entries => do
      match entries.lookup key with
      | none =>
          let inner ← descendDotted change later []
          return entries.assign key (.table .dotted inner)
      | some (.table origin inner) =>
          if origin = .headed then none
          else
            let inner ← descendDotted change later inner
            return entries.assign key (.table origin inner)
      | some (.tables _) => none
      | some (.closed _) => none

def define (key : String) (value : Setting) (entries : Entries) : Option Entries :=
  if (entries.lookup key).isSome then none else some (entries.assign key (.closed value))

/-- Give a value to a dotted key of an open table. -/
def defineDotted (path : List String) (value : Setting) (entries : Entries) : Option Entries :=
  match path.getLast? with
  | none => none
  | some key => descendDotted (define key value) path.dropLast entries

/-- Open the table of a header. It may have been implied before. -/
def openTable (key : String) (entries : Entries) : Option Entries :=
  match entries.lookup key with
  | none => some (entries.assign key (.table .headed []))
  | some (.table .implied inner) => some (entries.assign key (.table .headed inner))
  | some _ => none

def openNext (key : String) (entries : Entries) : Option Entries :=
  match entries.lookup key with
  | none => some (entries.assign key (.tables [[]]))
  | some (.tables items) => some (entries.assign key (.tables (items ++ [[]])))
  | some _ => none

end Entries

mutual

/-- The setting that a finished outline stands for. -/
def Outline.setting : Outline → Setting
  | .closed setting => setting
  | .table _ entries => .table (settingsOf entries)
  | .tables items => .sequence (settingsOfAll items)

def settingsOf : List (String × Outline) → List (String × Setting)
  | [] => []
  | (key, outline) :: later => (key, outline.setting) :: settingsOf later

def settingsOfAll : List (List (String × Outline)) → List Setting
  | [] => []
  | entries :: later => .table (settingsOf entries) :: settingsOfAll later

end

end DurationCalc.Settings.Toml
