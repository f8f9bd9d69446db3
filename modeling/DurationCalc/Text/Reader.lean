/-!
# Readers

A reader takes what it needs from the front of a list of characters and leaves
the rest, or fails. Loops are bounded by the number of characters left, so every
reader is total.
-/

namespace DurationCalc

/-- Something that reads a value from the front of a list of characters, if it can. -/
abbrev Reader := StateT (List Char) Option

namespace Reader

variable {α β : Type}

/-- The next character, which stays. -/
def peek : Reader (Option Char) := do
  return (← get).head?

def take : Reader Char := do
  match ← get with
  | [] => failure
  | character :: rest =>
      set rest
      return character

/-- Whether the characters come next; if they do, take them. -/
def takes (characters : List Char) : Reader Bool := do
  let rest ← get
  if characters.isPrefixOf rest then
    set (rest.drop characters.length)
    return true
  else return false

def expect (characters : List Char) : Reader Unit := do
  unless ← takes characters do failure

def takeAll (kind : Char → Bool) : Reader (List Char) := do
  let rest ← get
  set (rest.dropWhile kind)
  return rest.takeWhile kind

def takeCount (count : Nat) : Reader (List Char) := do
  let rest ← get
  if rest.length < count then failure
  set (rest.drop count)
  return rest.take count

/-- Repeat a step at most so often, until it gives a result. -/
def repeatAtMost (step : β → Reader (β ⊕ α)) : Nat → β → Reader α
  | 0, _ => failure
  | bound + 1, state => do
      match ← step state with
      | .inl next => repeatAtMost step bound next
      | .inr result => return result

/--
Repeat a step until it gives a result. A step that gives none takes at least one
character, so the number of characters left bounds the repetitions.
-/
def untilDone (step : β → Reader (β ⊕ α)) (start : β) : Reader α := do
  let rest ← get
  repeatAtMost step (rest.length + 1) start

def readAll (reader : Reader α) (characters : List Char) : Option α :=
  match reader.run characters with
  | some (value, []) => some value
  | _ => none

end Reader

end DurationCalc
