/-!
# Time units

A number in an expression may be followed by one letter that names its unit, in
either case. A number without a unit counts milliseconds.
-/

namespace DurationCalc

inductive TimeUnit where
  | day
  | hour
  | minute
  | second
deriving DecidableEq, Repr

namespace TimeUnit

/-- The unit that a token names. Only the four letters do, in either case. -/
def ofToken? : String → Option TimeUnit
  | "D" | "d" => some .day
  | "H" | "h" => some .hour
  | "M" | "m" => some .minute
  | "S" | "s" => some .second
  | _ => none

def millis : TimeUnit → Nat
  | .day => 86400000
  | .hour => 3600000
  | .minute => 60000
  | .second => 1000

/-- The letter that the canonical text of a duration uses. -/
def letter : TimeUnit → Char
  | .day => 'd'
  | .hour => 'h'
  | .minute => 'm'
  | .second => 's'

theorem ofToken?_letter (unit : TimeUnit) :
    ofToken? (String.singleton unit.letter) = some unit := by
  cases unit <;> rfl

/-- A unit has two spellings. -/
theorem eq_letter_of_ofToken? {token : String} {unit : TimeUnit}
    (isUnit : ofToken? token = some unit) :
    token = String.singleton unit.letter ∨ token = String.singleton unit.letter.toUpper := by
  unfold ofToken? at isUnit
  split at isUnit
  case h_9 => cases isUnit
  all_goals
    cases isUnit
    decide

end TimeUnit

end DurationCalc
