/-!
# Dates and times as text

A date has the form `1979-05-27` and a time the form `07:32` or `07:32:00`. Any
number of further digits may follow the seconds after a point. A time on a date
may be followed by its distance from universal time. All fields are checked
against the calendar.
-/

namespace DurationCalc.Text

def digitValue? (character : Char) : Option Nat :=
  if character.isDigit then some (character.toNat - '0'.toNat) else none

def twoDigits? : List Char → Option (Nat × List Char)
  | tens :: units :: rest => do
      return (10 * (← digitValue? tens) + (← digitValue? units), rest)
  | _ => none

/-- Two digits that make a number in range, and what follows them. -/
def field? (least greatest : Nat) (characters : List Char) : Option (Nat × List Char) := do
  let (value, rest) ← twoDigits? characters
  if least ≤ value ∧ value ≤ greatest then some (value, rest) else none

def oneOf? (choice : List Char) : List Char → Option (List Char)
  | character :: rest => if choice.contains character then some rest else none
  | [] => none

def daysInMonth (year month : Nat) : Nat :=
  if month = 2 then
    if year % 4 = 0 ∧ (year % 100 ≠ 0 ∨ year % 400 = 0) then 29 else 28
  else if month = 4 || month = 6 || month = 9 || month = 11 then 30
  else 31

def afterDate? (characters : List Char) : Option (List Char) := do
  let (century, rest) ← twoDigits? characters
  let (yearOfCentury, rest) ← twoDigits? rest
  let rest ← oneOf? ['-'] rest
  let (month, rest) ← field? 1 12 rest
  let rest ← oneOf? ['-'] rest
  let (_, rest) ← field? 1 (daysInMonth (100 * century + yearOfCentury) month) rest
  return rest

/-- Take the digits after a point, if there is one. -/
def afterFraction? : List Char → Option (List Char)
  | '.' :: rest =>
      if rest.head?.any Char.isDigit then some (rest.dropWhile Char.isDigit) else none
  | rest => some rest

/-- Take a time of day. Seconds may be left out, and the last minute may have a leap second. -/
def afterTime? (characters : List Char) : Option (List Char) := do
  let (_, rest) ← field? 0 23 characters
  let rest ← oneOf? [':'] rest
  let (_, rest) ← field? 0 59 rest
  match rest with
  | ':' :: seconds =>
      let (_, rest) ← field? 0 60 seconds
      afterFraction? rest
  | _ => return rest

/-- Take a distance from universal time. -/
def afterOffset? (characters : List Char) : Option (List Char) :=
  (oneOf? ['Z', 'z'] characters).or (do
    let rest ← oneOf? ['+', '-'] characters
    let (_, rest) ← field? 0 23 rest
    let rest ← oneOf? [':'] rest
    let (_, rest) ← field? 0 59 rest
    return rest)

/-- A date, a time of day, or both, then possibly with a distance from universal time. -/
def isMoment (characters : List Char) : Bool :=
  match afterDate? characters with
  | some [] => true
  | some rest =>
      match oneOf? ['T', 't', ' '] rest with
      | none => false
      | some time =>
          match afterTime? time with
          | some [] => true
          | some offset => afterOffset? offset = some []
          | none => false
  | none => afterTime? characters = some []

end DurationCalc.Text
