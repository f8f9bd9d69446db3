import DurationCalc.Settings.Setting
import DurationCalc.Text.Decimal
import DurationCalc.Text.Reader

/-!
# Paths to settings

A path leads from the root of a tree to a setting within it, by the keys of
tables and the positions in sequences. It is written like `rates.studio[0]`. A
negative position counts from the end. A value can be laid at any path: whatever
is on the way and does not fit gives way to a table or a sequence, and a sequence
that is too short grows.
-/

namespace DurationCalc

inductive Step where
  | key (name : String)
  | position (index : Int)
deriving DecidableEq, Repr

abbrev Path := List Step

namespace Path

/-- Keys in a written path are words of letters, digits, underscores and hyphens. -/
def isKeyCharacter (character : Char) : Bool :=
  character.isAlphanum || character = '_' || character = '-'

def key : Reader Step := do
  let name ← Reader.takeAll isKeyCharacter
  if name.isEmpty then failure
  return .key (String.ofList name)

/-- A position after its opening bracket. Space may stand around the number. -/
def position : Reader Step := do
  let skipSpace := Reader.takeAll fun character => character = ' ' || character = '\t'
  let _ ← skipSpace
  let sign := if ← Reader.takes ['-'] then ['-'] else []
  let digits ← Reader.takeAll Char.isDigit
  let _ ← skipSpace
  Reader.expect [']']
  if digits.isEmpty then failure
  match (Text.signedNumeral? (sign ++ digits)).filter Setting.isSignedWord with
  | some index => return .position index
  | none => failure

/-- A whole path. It starts with a key. -/
def reader : Reader Path := do
  let root ← key
  let reversed ← Reader.untilDone (fun taken => do
    if ← Reader.takes ['.'] then return .inl ((← key) :: taken)
    else if ← Reader.takes ['['] then return .inl ((← position) :: taken)
    else return .inr taken) [root]
  return reversed.reverse

/-- The path that a name stands for. A name that is no written path is a single key. -/
def ofName (name : String) : Path :=
  (Reader.readAll reader name.toList).getD [.key name]

end Path

namespace Setting

/-- Make a sequence long enough for a position, and find where that position is. -/
def reach (items : List Setting) (index : Int) : List Setting × Nat :=
  match index with
  | .ofNat index => (items ++ List.replicate (index + 1 - items.length) .absent, index)
  | .negSucc before =>
      (List.replicate (before + 1 - items.length) .absent ++ items, items.length - (before + 1))

/-- Lay a value over what stands at a path. -/
def overlayAt (value : Setting) : Path → Setting → Setting
  | [], below => below.overlay value
  | .key name :: later, below =>
      below.put name (overlayAt value later ((below.lookup name).getD .absent))
  | .position index :: later, below =>
      let (items, place) := reach below.items index
      .sequence (items.modify place (overlayAt value later))

/--
The tree of named settings, each laid at the path of its name over those before it.
Names whose paths meet make the order matter.
-/
def ofNamed (named : List (String × Setting)) : Setting :=
  named.foldl (fun tree (name, value) => overlayAt value (Path.ofName name) tree) (.table [])

@[simp] theorem lookup_overlayAt_key (value : Setting) (name : String) (later : Path)
    (below : Setting) : (overlayAt value (.key name :: later) below).lookup name =
      some (overlayAt value later ((below.lookup name).getD .absent)) :=
  lookup_put_self below name _

theorem lookup_overlayAt_key_of_ne {name other : String} (differs : other ≠ name)
    (value : Setting) (later : Path) (below : Setting) :
    (overlayAt value (.key name :: later) below).lookup other = below.lookup other :=
  lookup_put_of_ne differs below _

example : Path.ofName "rates.studio[-1]" =
    [.key "rates", .key "studio", .position (-1)] := by decide +kernel
example : Path.ofName "rates[" = [.key "rates["] := by decide +kernel
example : reach [.integer 7] 2 = ([.integer 7, .absent, .absent], 2) := rfl
example : reach [.integer 7] (-2) = ([.absent, .integer 7], 0) := rfl

end Setting

end DurationCalc
