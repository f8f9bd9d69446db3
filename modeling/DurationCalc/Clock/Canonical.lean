import DurationCalc.TimeUnit

/-!
# The form of canonical texts

Which texts are canonical, said without writing any: a minus sign or none, then
either three digits alone, or a first part that is not zero with every smaller
part after it in two digits, and possibly three digits that are not all zero.
Each part keeps within its range. Three zeros alone have no minus sign.
-/

namespace DurationCalc.Canonical

def digit (value : Fin 10) : Char :=
  Char.ofNat ('0'.toNat + value)

def twoDigits (value : Nat) : List Char :=
  [digit (Fin.ofNat 10 (value / 10)), digit (Fin.ofNat 10 value)]

def threeDigits (value : Nat) : List Char :=
  digit (Fin.ofNat 10 (value / 100)) :: twoDigits value

/-- Digits that do not begin with a zero. -/
def IsPlainNumeral (text : List Char) : Prop :=
  ∃ first rest, text = first :: rest ∧ first ≠ '0' ∧ ∀ character ∈ text, character.isDigit = true

/-- Two digits of a value within a range, with the letter of a unit. -/
def IsPart (least bound : Nat) (unit : TimeUnit) (text : List Char) : Prop :=
  ∃ value, least ≤ value ∧ value < bound ∧ text = twoDigits value ++ [unit.letter]

/-- Nothing, or three digits that are not all zero. -/
def IsRemainder (text : List Char) : Prop :=
  text = [] ∨ ∃ value, 1 ≤ value ∧ value < 1000 ∧ text = threeDigits value

/-- The seconds, at least so many, and the remainder. -/
def FromSeconds (least : Nat) (text : List Char) : Prop :=
  ∃ part rest, IsPart least 60 .second part ∧ IsRemainder rest ∧ text = part ++ rest

def FromMinutes (least : Nat) (text : List Char) : Prop :=
  ∃ part rest, IsPart least 60 .minute part ∧ FromSeconds 0 rest ∧ text = part ++ rest

def FromHours (least : Nat) (text : List Char) : Prop :=
  ∃ part rest, IsPart least 24 .hour part ∧ FromMinutes 0 rest ∧ text = part ++ rest

def FromDays (text : List Char) : Prop :=
  ∃ days rest, IsPlainNumeral days ∧ FromHours 0 rest ∧
    text = days ++ [TimeUnit.day.letter] ++ rest

/-- The text of a duration that is not zero, without a sign. -/
def IsMagnitude (text : List Char) : Prop :=
  FromDays text ∨ FromHours 1 text ∨ FromMinutes 1 text ∨ FromSeconds 1 text ∨
    ∃ value, 1 ≤ value ∧ value < 1000 ∧ text = threeDigits value

def IsCanonical (text : List Char) : Prop :=
  text = threeDigits 0 ∨ IsMagnitude text ∨ ∃ rest, text = '-' :: rest ∧ IsMagnitude rest

end DurationCalc.Canonical
