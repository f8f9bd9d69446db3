import DurationCalc.Binary64.Basic
import DurationCalc.Text.Numeral

/-!
# Decimal texts of binary64 numbers

A number is written in one of two ways, never with an exponent. The shortest
text has the fewest digits that read back as the same number, and among those of
that length the ones closest to it. The text with fixed places rounds the exact
value, a half to the even digit.
-/

namespace DurationCalc.Binary64

/-- A number and the ends of the interval of values that round to it. -/
structure Neighbourhood where
  value : Nat
  lower : Nat
  upper : Nat
  /-- All three are counted in units of one over this. -/
  unit : Nat
  /-- Whether the ends themselves round to the number. -/
  closed : Bool

/--
The values that round to a number lie within half a step on both sides. Below a
power of two the steps are half as long.
-/
def neighbourhood (significand : Nat) (exponent : Int) : Neighbourhood :=
  let step := shiftFraction 1 4 exponent
  let atPower := significand = leastSignificand ∧ leastExponent < exponent
  { value := 4 * significand * step.1
    lower := (4 * significand - if atPower then 1 else 2) * step.1
    upper := (4 * significand + 2) * step.1
    unit := step.2
    closed := significand % 2 = 0 }

namespace Neighbourhood

/-- Whether `candidate * 10 ^ place` reads back as the number. -/
def admits (around : Neighbourhood) (candidate : Nat) (place : Int) : Bool :=
  let scaled : Nat × Nat :=
    if 0 ≤ place then (candidate * tenTo place.toNat * around.unit, 1)
    else (candidate * around.unit, tenTo (-place).toNat)
  if around.closed then
    around.lower * scaled.2 ≤ scaled.1 && scaled.1 ≤ around.upper * scaled.2
  else
    around.lower * scaled.2 < scaled.1 && scaled.1 < around.upper * scaled.2

def inPlaces (around : Neighbourhood) (place : Int) : Nat × Nat :=
  if 0 ≤ place then (around.value, around.unit * tenTo place.toNat)
  else (around.value * tenTo (-place).toNat, around.unit)

/--
A multiple of `10 ^ place` that reads back as the number, if there is one: the
closer of the two multiples around it, the upper one if they are equally close.
-/
def multiple? (around : Neighbourhood) (place : Int) : Option Nat :=
  let scaled := around.inPlaces place
  let below := scaled.1 / scaled.2
  let above := below + 1
  let closer := if 2 * (scaled.1 % scaled.2) < scaled.2 then [below, above] else [above, below]
  closer.find? fun candidate => around.admits candidate place

/-- How many digits the whole part has; for a value below one, minus the zeros after the point. -/
def magnitude (around : Neighbourhood) : Int :=
  if around.unit ≤ around.value then (Text.digits (around.value / around.unit)).length
  else 1 - ((Text.digits (around.unit / around.value)).length : Int)

end Neighbourhood

/-- The places from which a digit may come, the coarsest first. Seventeen digits always suffice. -/
def Neighbourhood.places (around : Neighbourhood) : List Int :=
  (List.range 20).map fun (count : Nat) => around.magnitude + 1 - Int.ofNat count

/--
The digits and the place of the shortest text: a multiple of the coarsest power
of ten that has one. The search does not come to its end without a find.
-/
def shortestDigits (significand : Nat) (exponent : Int) : Nat × Int :=
  let around := neighbourhood significand exponent
  let found := around.places.findSome? fun place =>
    (around.multiple? place).map fun digits => (digits, place)
  found.getD (0, 0)

/-- Write `digits * 10 ^ place` without an exponent. -/
def positional (digits : Nat) (place : Int) : List Char :=
  if 0 ≤ place then Text.digits (digits * tenTo place.toNat)
  else
    let places := (-place).toNat
    let written := Text.padded (places + 1) digits
    written.take (written.length - places) ++ '.' :: written.drop (written.length - places)

def signText (negative : Bool) : List Char :=
  if negative then ['-'] else []

def infinityText (negative : Bool) : List Char :=
  signText negative ++ ['i', 'n', 'f']

/-- The text with the fewest digits that read back as the number. -/
def shortestText : Binary64 → String
  | .nan => "NaN"
  | .infinite negative => String.ofList (infinityText negative)
  | .finite negative significand exponent =>
      let body :=
        if significand = 0 then ['0']
        else
          let shortest := shortestDigits significand exponent
          positional shortest.1 shortest.2
      String.ofList (signText negative ++ body)

/-- The text with so many places after the point, rounded from the exact value. -/
def fixedText (places : Nat) : Binary64 → String
  | .nan => "NaN"
  | .infinite negative => String.ofList (infinityText negative)
  | .finite negative significand exponent =>
      let scaled := magnitude (significand * tenTo places) exponent
      let body := positional (roundHalfEven scaled.1 scaled.2) (-(places : Int))
      String.ofList (signText negative ++ body)

example : (ofFraction false 1 10).shortestText = "0.1" := by decide +kernel
example : (ofFraction true 1 8).fixedText 2 = "-0.12" := by decide +kernel
example : (ofInt (tenTo 23)).shortestText = "100000000000000000000000" := by decide +kernel

end DurationCalc.Binary64
