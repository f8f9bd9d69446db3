import DurationCalc.Rounding

/-!
# Numbers of the binary64 format

The numbers that a 64-bit binary fraction can hold: a sign, a significand below
2^53 and a power of two from 2^-1074 up, or an infinity, or no number at all. A
significand below 2^52 goes with the least exponent only, so that every number
has one form. Exact quotients are rounded to the nearest of these numbers, a
half to the even significand, and what is too large becomes infinite.
-/

namespace DurationCalc

inductive Binary64 where
  | nan
  | infinite (negative : Bool)
  /-- The number `± significand * 2 ^ exponent`. -/
  | finite (negative : Bool) (significand : Nat) (exponent : Int)
deriving DecidableEq, Repr

namespace Binary64

/-- The exponent of the smallest numbers, and of zero. -/
def leastExponent : Int := -1074

def greatestExponent : Int := 971

/-- Two to the power 52, the least significand of the larger numbers. -/
def leastSignificand : Nat := 0x10000000000000

/-- Two to the power 53; significands lie below it. -/
def significandBound : Nat := 0x20000000000000

/-- Two to the power 63, the bit of the sign. -/
def signBit (negative : Bool) : Nat :=
  if negative then 0x8000000000000000 else 0

def twoTo (exponent : Nat) : Nat := Nat.pow 2 exponent

def tenTo (exponent : Nat) : Nat := Nat.pow 10 exponent

def zero (negative : Bool) : Binary64 := .finite negative 0 leastExponent

def shiftFraction (numerator denominator : Nat) (exponent : Int) : Nat × Nat :=
  if 0 ≤ exponent then (numerator * twoTo exponent.toNat, denominator)
  else (numerator, denominator * twoTo (-exponent).toNat)

/--
The exponent at which a positive fraction is rounded: the quotient by that power
of two lies between 2^52 and 2^53, unless the fraction is too small for that.
-/
def exponentOf (numerator denominator : Nat) : Int :=
  let estimate : Int := (Nat.log2 numerator : Int) - (Nat.log2 denominator : Int)
  let scaled := shiftFraction numerator denominator (-estimate)
  let magnitude := if scaled.1 < scaled.2 then estimate - 1 else estimate
  max leastExponent (magnitude - 52)

/-- The number nearest to a fraction, a half going to the even significand. -/
def ofFraction (negative : Bool) (numerator denominator : Nat) : Binary64 :=
  if numerator = 0 then zero negative
  else
    let exponent := exponentOf numerator denominator
    let scaled := shiftFraction numerator denominator (-exponent)
    let rounded := roundHalfEven scaled.1 scaled.2
    let significand := if rounded = significandBound then leastSignificand else rounded
    let exponent := if rounded = significandBound then exponent + 1 else exponent
    if greatestExponent < exponent then .infinite negative
    else .finite negative significand exponent

def ofInt (value : Int) : Binary64 :=
  ofFraction (value < 0) value.natAbs 1

/--
The number nearest to `± digits * 10 ^ exponent`. Magnitudes from 10^310 up are
infinite and those below 10^-330 vanish, whatever their digits.
-/
def ofDecimal (negative : Bool) (digits : Nat) (exponent : Int) : Binary64 :=
  let places : Int := (Nat.toDigits 10 digits).length + exponent
  if digits = 0 || places < -330 then zero negative
  else if 310 < places then .infinite negative
  else if 0 ≤ exponent then ofFraction negative (digits * tenTo exponent.toNat) 1
  else ofFraction negative digits (tenTo (-exponent).toNat)

/--
The whole number nearest to a number, a half going up. What is negative or no
number counts as zero, and the positive infinity has none.
-/
def toNat? : Binary64 → Option Nat
  | .nan => some 0
  | .infinite negative => if negative then some 0 else none
  | .finite negative significand exponent =>
      let scaled := shiftFraction significand 1 exponent
      some (if negative then 0 else roundHalfUp scaled.1 scaled.2)

def magnitude (significand : Nat) (exponent : Int) : Nat × Nat :=
  shiftFraction significand 1 exponent

/-- The 64 bits that encode a number: sign, biased exponent, significand without its leading one. -/
def bits : Binary64 → Nat
  | .nan => 0x7ff8000000000000
  | .infinite negative => signBit negative + 0x7ff0000000000000
  | .finite negative significand exponent =>
      signBit negative + (exponent - leastExponent).toNat * leastSignificand + significand

example : (ofFraction false 1 2).bits = 0x3fe0000000000000 := by decide +kernel

/-- The smallest number there is, and the largest below infinity. -/
example : (ofFraction false 1 (twoTo 1074)).bits = 1 ∧
    (ofFraction false ((significandBound - 1) * twoTo 971) 1).bits = 0x7fefffffffffffff := by decide +kernel

end Binary64

end DurationCalc
