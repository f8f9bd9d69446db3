import DurationCalc.Binary64.Basic

/-!
# Division and scaling of binary64 numbers

Both operations are exact up to one rounding of the result, and follow the
standard's rules for infinities and signed zeros.
-/

namespace DurationCalc.Binary64

/-- The quotient of two numbers, rounded once. -/
def divide : Binary64 → Binary64 → Binary64
  | .nan, _ => .nan
  | _, .nan => .nan
  | .infinite _, .infinite _ => .nan
  | .infinite left, .finite right _ _ => .infinite (left ^^ right)
  | .finite left _ _, .infinite right => zero (left ^^ right)
  | .finite left leftSignificand leftExponent, .finite right rightSignificand rightExponent =>
      if rightSignificand = 0 then
        if leftSignificand = 0 then .nan else .infinite (left ^^ right)
      else
        let scaled := shiftFraction leftSignificand rightSignificand (leftExponent - rightExponent)
        ofFraction (left ^^ right) scaled.1 scaled.2

/-- The product with a positive whole number, rounded once. -/
def scale (factor : Nat) : Binary64 → Binary64
  | .nan => .nan
  | .infinite negative => .infinite negative
  | .finite negative significand exponent =>
      let scaled := magnitude (significand * factor) exponent
      ofFraction negative scaled.1 scaled.2

/-- Zero divided by a negative number is the negative zero. -/
example : (divide (ofInt 0) (ofInt (-1000))).bits = 0x8000000000000000 := by decide +kernel

example : (divide (ofInt 60000) (ofInt 80000)).bits = 0x3fe8000000000000 := by decide +kernel

end DurationCalc.Binary64
