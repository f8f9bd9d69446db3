import DurationCalc.Text.Blank
import DurationCalc.Text.Numeral

/-!
# Rates

A rate says how many equal quanta make one second: 30 for video at thirty frames
per second, 1000 for milliseconds. A quantum is never shorter than a
millisecond, so a rate lies between 1 and 1000; quanta any finer could not be
told apart once they are expressed in milliseconds.
-/

namespace DurationCalc

structure Rate where
  perSecond : Nat
  one_le_perSecond : 1 ≤ perSecond := by decide
  perSecond_le : perSecond ≤ 1000 := by decide
deriving DecidableEq

/-- What was given in place of a rate, quoted as it was written. -/
structure RateError where
  quoted : String
deriving DecidableEq

namespace RateError

def message (error : RateError) : String :=
  "invalid quantum per second \"" ++ error.quoted ++
    "\": expected an integer between 1 and 1000"

end RateError

namespace Rate

/-- One quantum per millisecond, the finest rate. -/
def milliseconds : Rate := ⟨1000, by decide, by decide⟩

def thirtyFrames : Rate := ⟨30, by decide, by decide⟩

def sixtyFrames : Rate := ⟨60, by decide, by decide⟩

def ofNat? (number : Nat) : Option Rate :=
  if inRange : 1 ≤ number ∧ number ≤ 1000 then some ⟨number, inRange.1, inRange.2⟩ else none

/-- The rate of that many quanta per second, or the number as the thing to complain about. -/
def ofNat (number : Nat) : Except RateError Rate :=
  match ofNat? number with
  | some rate => .ok rate
  | none => .error ⟨String.ofList (Text.digits number)⟩

/--
Read a rate. Blanks at both ends are ignored and one plus sign may stand before
the digits; the complaint quotes the text with its blanks.
-/
def ofText (text : String) : Except RateError Rate :=
  match (Text.plusNumeral? (Text.trim text.toList)).bind ofNat? with
  | some rate => .ok rate
  | none => .error ⟨text⟩

def text (rate : Rate) : String :=
  String.ofList (Text.digits rate.perSecond)

/-- A number is a rate exactly when it lies between 1 and 1000. -/
theorem ofNat?_eq_some_iff (number : Nat) (rate : Rate) :
    ofNat? number = some rate ↔ rate.perSecond = number := by
  unfold ofNat?
  split
  · simp only [Option.some.injEq]
    constructor
    · rintro rfl
      rfl
    · rintro rfl
      rfl
  · rename_i outOfRange
    constructor
    · intro impossible
      simp at impossible
    · rintro rfl
      exact absurd ⟨rate.one_le_perSecond, rate.perSecond_le⟩ outOfRange

theorem ofText_text (rate : Rate) : ofText rate.text = .ok rate := by
  have noBlank : ∀ character ∈ Text.digits rate.perSecond, Text.isBlank character = false := by
    intro character isThere
    exact Text.isBlank_of_isDigit (Text.isDigit_of_mem_digits isThere)
  have inRange : ofNat? rate.perSecond = some rate := (ofNat?_eq_some_iff _ _).mpr rfl
  rw [ofText, text, String.toList_ofList, Text.trim_eq_self noBlank, Text.plusNumeral?_digits,
    Option.bind_some, inRange]

end Rate

end DurationCalc
