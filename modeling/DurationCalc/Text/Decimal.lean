import DurationCalc.Binary64.Basic
import DurationCalc.Text.Numeral
import DurationCalc.Text.Split

/-!
# Decimal fractions as text

A decimal fraction is written as an optional sign, whole digits, optionally a
point with further digits, and optionally a power of ten. How much of this may
be left out differs between formats; cutting a text into these parts and
computing its value does not.
-/

namespace DurationCalc.Text

/-- The parts of a decimal fraction, not yet known to be digits. -/
structure Decimal where
  sign : Option Char
  whole : List Char
  fraction : Option (List Char)
  power : Option (List Char)
deriving DecidableEq, Repr

def cutSign : List Char → Option Char × List Char
  | '+' :: rest => (some '+', rest)
  | '-' :: rest => (some '-', rest)
  | characters => (none, characters)

/-- An optional sign and a numeral, as an integer. -/
def signedNumeral? (characters : List Char) : Option Int :=
  let (sign, body) := cutSign characters
  (numeral? body).map fun value => if sign = some '-' then -(value : Int) else (value : Int)

namespace Decimal

/-- Cut a text into the parts of a decimal fraction. -/
def ofText (characters : List Char) : Decimal :=
  let (sign, body) := cutSign characters
  let (mantissa, power) := cutAtFirst (fun character => character = 'e' || character = 'E') body
  let (whole, fraction) := cutAtFirst (fun character => character = '.') mantissa
  { sign, whole, fraction, power }

/-- Neither a point nor a power of ten was written. -/
def isWhole (decimal : Decimal) : Bool :=
  decimal.fraction.isNone && decimal.power.isNone

/-- The whole part is a numeral without needless zeros in front. -/
def hasPlainWhole (decimal : Decimal) : Bool :=
  isNumeral decimal.whole && (decimal.whole.length = 1 || decimal.whole.head? != some '0')

/-- A point, if there is one, is followed by digits. -/
def hasFullFraction (decimal : Decimal) : Bool :=
  decimal.fraction.all isNumeral

/-- A power of ten, if there is one, is an integer. -/
def hasFullPower (decimal : Decimal) : Bool :=
  decimal.power.all fun power => (signedNumeral? power).isSome

/-- There is a digit before or after the point, and all parts are digits. -/
def isLoose (decimal : Decimal) : Bool :=
  isNumeral (decimal.whole ++ decimal.fraction.getD []) && decimal.hasFullPower

def isNegative (decimal : Decimal) : Bool :=
  decimal.sign = some '-'

def toBinary64 (decimal : Decimal) : Binary64 :=
  let fraction := decimal.fraction.getD []
  let power := (decimal.power.bind signedNumeral?).getD 0
  Binary64.ofDecimal decimal.isNegative (numeralValue (decimal.whole ++ fraction))
    (power - fraction.length)

end Decimal

def lowercase (characters : List Char) : List Char :=
  characters.map Char.toLower

/-- A number written loosely: a decimal fraction, an infinity or the word for no number. -/
def binary64? (characters : List Char) : Option Binary64 :=
  let (sign, body) := cutSign characters
  let word := String.ofList (lowercase body)
  if word = "nan" then some .nan
  else if word = "inf" || word = "infinity" then some (.infinite (sign = some '-'))
  else
    let decimal := Decimal.ofText characters
    if decimal.isLoose then some decimal.toBinary64 else none

end DurationCalc.Text
