/-!
# Decimal numerals

Whole numbers are written with the ASCII digits alone. A digit string may carry
leading zeros and be of any length; its value is exact.
-/

namespace DurationCalc.Text

/-- The decimal digits of a number, without leading zeros. -/
def digits (number : Nat) : List Char :=
  Nat.toDigits 10 number

/-- A numeral is a nonempty run of ASCII digits. -/
def isNumeral (characters : List Char) : Bool :=
  !characters.isEmpty && characters.all Char.isDigit

/-- The number that a digit string denotes in base ten. -/
def numeralValue (characters : List Char) : Nat :=
  Nat.ofDigitChars 10 characters 0

/-- The value of a numeral; any other string has none. -/
def numeral? (characters : List Char) : Option Nat :=
  if isNumeral characters then some (numeralValue characters) else none

/-- The value of a numeral that one plus sign may precede. -/
def plusNumeral? : List Char → Option Nat
  | '+' :: rest => numeral? rest
  | characters => numeral? characters

/-- Write a number with at least `width` digits, padding with zeros in front. -/
def padded (width number : Nat) : List Char :=
  List.replicate (width - (digits number).length) '0' ++ digits number

/-- The text of an integer: a minus sign if it is negative, then its digits. -/
def integerText (number : Int) : List Char :=
  if number < 0 then '-' :: digits number.natAbs else digits number.natAbs

@[simp] theorem numeralValue_digits (number : Nat) : numeralValue (digits number) = number :=
  Nat.ofDigitChars_ten_toDigits

@[simp] theorem numeralValue_replicate_zero_append (count : Nat) (characters : List Char) :
    numeralValue (List.replicate count '0' ++ characters) = numeralValue characters := by
  induction count with
  | zero => rfl
  | succ count ih =>
      rw [List.replicate_succ, List.cons_append]
      simpa [numeralValue, Nat.ofDigitChars_cons] using ih

@[simp] theorem numeralValue_padded (width number : Nat) :
    numeralValue (padded width number) = number := by
  simp [padded]

theorem isNumeral_iff (characters : List Char) :
    isNumeral characters = true ↔
      characters ≠ [] ∧ ∀ character ∈ characters, character.isDigit = true := by
  simp [isNumeral]

theorem numeral?_eq_some_iff (characters : List Char) (number : Nat) :
    numeral? characters = some number ↔
      isNumeral characters = true ∧ numeralValue characters = number := by
  rw [numeral?]
  split <;> simp_all

theorem isDigit_of_mem_digits {number : Nat} {character : Char}
    (isThere : character ∈ digits number) : character.isDigit = true :=
  Nat.isDigit_of_mem_toDigits (by decide) (by decide) isThere

theorem exists_digits_eq_cons (number : Nat) :
    ∃ first rest, digits number = first :: rest ∧ first.isDigit = true := by
  cases written : digits number with
  | nil => exact absurd written Nat.toDigits_ne_nil
  | cons first rest =>
      exact ⟨first, rest, rfl, isDigit_of_mem_digits (written ▸ List.mem_cons_self)⟩

theorem isNumeral_padded (width number : Nat) : isNumeral (padded width number) = true := by
  rw [isNumeral_iff, padded]
  constructor
  · exact List.append_ne_nil_of_right_ne_nil _ Nat.toDigits_ne_nil
  · intro character isThere
    rcases List.mem_append.mp isThere with isPadding | isDigit
    · rw [List.eq_of_mem_replicate isPadding]
      rfl
    · exact isDigit_of_mem_digits isDigit

@[simp] theorem numeral?_padded (width number : Nat) :
    numeral? (padded width number) = some number := by
  rw [numeral?, if_pos (isNumeral_padded width number), numeralValue_padded]

theorem numeral?_digits (number : Nat) : numeral? (digits number) = some number := by
  simpa [padded] using numeral?_padded 0 number

theorem plusNumeral?_digits (number : Nat) : plusNumeral? (digits number) = some number := by
  have noPlus : plusNumeral? (digits number) = numeral? (digits number) := by
    obtain ⟨first, rest, written, isDigit⟩ := exists_digits_eq_cons number
    rw [written, plusNumeral?]
    rintro other isPlus
    cases isPlus
    cases isDigit
  rw [noPlus, numeral?_digits]

end DurationCalc.Text
