import DurationCalc.Clock.Canonical
import DurationCalc.Text.Numeral

/-!
# Numerals as they are written

Numbers are written either plainly, without a leading zero, or padded to a
width. The plain numerals of positive numbers are exactly the digit strings that
do not begin with a zero. A padded number has its digits in fixed places, as
long as it fits the width.
-/

namespace DurationCalc

namespace Text

theorem digits_of_lt_ten {number : Nat} (small : number < 10) :
    digits number = [number.digitChar] :=
  Nat.toDigits_of_lt_base small

theorem digits_of_ten_le {number : Nat} (large : 10 ≤ number) :
    digits number = digits (number / 10) ++ [(number % 10).digitChar] :=
  Nat.toDigits_of_base_le (by decide) large

theorem digitChar_toNat_sub {character : Char} (digit : character.isDigit = true) :
    (character.toNat - '0'.toNat).digitChar = character := by
  rw [Char.isDigit_iff_toNat] at digit
  have lower : 48 ≤ character.toNat := digit.1
  have upper : character.toNat ≤ 57 := digit.2
  have zero : '0'.toNat = 48 := rfl
  apply Char.toNat_inj.mp
  rw [zero, Nat.toNat_digitChar_of_lt_ten (by omega)]
  omega

/-- Once a digit other than zero was read, the digits that follow are kept as they are. -/
theorem digits_append {start : Nat} (positive : 0 < start) {characters : List Char}
    (allDigits : ∀ character ∈ characters, character.isDigit = true) :
    digits start ++ characters = digits (Nat.ofDigitChars 10 characters start) := by
  induction characters generalizing start with
  | nil => simp
  | cons first later ih =>
      have isDigit := allDigits first (by simp)
      have small : first.toNat - '0'.toNat < 10 := by
        have upper : first.toNat ≤ 57 := (Char.isDigit_iff_toNat.mp isDigit).2
        have zero : '0'.toNat = 48 := rfl
        omega
      have joined : digits start ++ [first] =
          digits (10 * start + (first.toNat - '0'.toNat)) := by
        have appended := Nat.toDigits_append_toDigits (b := 10) (by decide) positive small
        rwa [Nat.toDigits_of_lt_base small, digitChar_toNat_sub isDigit] at appended
      have rest := ih (show 0 < 10 * start + (first.toNat - '0'.toNat) by omega)
        fun character isThere => allDigits character (List.mem_cons_of_mem _ isThere)
      rw [Nat.ofDigitChars_cons, ← rest, ← joined, List.append_assoc, List.singleton_append]

/-- No number but zero is written with a zero first. -/
theorem head?_digits_ne_zero {number : Nat} (positive : 1 ≤ number) :
    (digits number).head? ≠ some '0' := by
  induction number using Nat.strongRecOn with
  | ind number ih =>
      rcases Nat.lt_or_ge number 10 with small | large
      · rw [digits_of_lt_ten small]
        simp
        omega
      · have tens := ih (number / 10) (by omega) (by omega)
        have nonempty : digits (number / 10) ≠ [] := Nat.toDigits_ne_nil
        rw [List.head?_eq_some_head nonempty] at tens
        rw [digits_of_ten_le large, List.head?_append, List.head?_eq_some_head nonempty]
        exact tens

theorem padded_one (number : Nat) : padded 1 number = digits number := by
  have someDigit : 1 - (digits number).length = 0 :=
    Nat.sub_eq_zero_of_le Nat.length_toDigits_pos
  rw [padded, someDigit, List.replicate_zero, List.nil_append]

/-- A wider field keeps the last digit and pads what is before it. -/
theorem padded_succ {width : Nat} (wide : 1 ≤ width) (number : Nat) :
    padded (width + 1) number = padded width (number / 10) ++ [(number % 10).digitChar] := by
  rcases Nat.lt_or_ge number 10 with small | large
  · obtain ⟨places, rfl⟩ : ∃ places, width = places + 1 := ⟨width - 1, by omega⟩
    have noTens : number / 10 = 0 := by omega
    have sameDigit : number % 10 = number := by omega
    rw [padded, padded, digits_of_lt_ten small, noTens, sameDigit, digits_of_lt_ten (by decide)]
    simp [List.replicate_succ']
  · rw [padded, padded, digits_of_ten_le large]
    simp

end Text

namespace Canonical

theorem digit_eq_digitChar (value : Nat) :
    digit (Fin.ofNat 10 value) = (value % 10).digitChar := by
  have checked : ∀ figure : Fin 10, digit figure = figure.val.digitChar := by decide
  exact checked (Fin.ofNat 10 value)

theorem twoDigits_eq_padded {value : Nat} (bounded : value < 100) :
    twoDigits value = Text.padded 2 value := by
  have tens : Text.padded 1 (value / 10) = [(value / 10 % 10).digitChar] := by
    rw [Nat.mod_eq_of_lt (by omega), Text.padded_one, Text.digits_of_lt_ten (by omega)]
  rw [twoDigits, digit_eq_digitChar, digit_eq_digitChar, Text.padded_succ (by decide), tens]
  rfl

theorem threeDigits_eq_padded {value : Nat} (bounded : value < 1000) :
    threeDigits value = Text.padded 3 value := by
  have hundreds : value / 10 / 10 = value / 100 := by omega
  rw [Text.padded_succ (by decide), ← twoDigits_eq_padded (by omega), threeDigits, twoDigits,
    twoDigits, hundreds, digit_eq_digitChar value]
  rfl

/-- The plain numerals are what positive numbers are written as. -/
theorem isPlainNumeral_iff (text : List Char) :
    IsPlainNumeral text ↔ ∃ number, 1 ≤ number ∧ text = Text.digits number := by
  constructor
  · rintro ⟨first, rest, rfl, noZeroFirst, allDigits⟩
    have isDigit := allDigits first (by simp)
    have lower : '0'.toNat ≤ first.toNat := (Char.isDigit_iff_toNat.mp isDigit).1
    have upper : first.toNat ≤ 57 := (Char.isDigit_iff_toNat.mp isDigit).2
    have zero : '0'.toNat = 48 := rfl
    have notZero : first.toNat ≠ '0'.toNat := fun same => noZeroFirst (Char.toNat_inj.mp same)
    have written := Text.digits_append (show 0 < first.toNat - '0'.toNat by omega)
      fun character isThere => allDigits character (List.mem_cons_of_mem first isThere)
    rw [Text.digits_of_lt_ten (by omega), Text.digitChar_toNat_sub isDigit] at written
    refine ⟨_, Nat.pos_of_ne_zero fun isZero => noZeroFirst ?_, written⟩
    rw [isZero, Text.digits, Nat.toDigits_zero] at written
    exact (List.cons.inj written).1
  · rintro ⟨number, positive, rfl⟩
    cases written : Text.digits number with
    | nil => exact absurd written Nat.toDigits_ne_nil
    | cons first rest =>
        have noZeroFirst := Text.head?_digits_ne_zero positive
        rw [written] at noZeroFirst
        refine ⟨first, rest, rfl, fun isZero => noZeroFirst (congrArg some isZero), ?_⟩
        intro character isThere
        exact Text.isDigit_of_mem_digits (written ▸ isThere)

end Canonical

end DurationCalc
