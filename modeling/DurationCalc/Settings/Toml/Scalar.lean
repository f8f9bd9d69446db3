import DurationCalc.Settings.Setting
import DurationCalc.Text.Moment

/-!
# Scalars of TOML documents

A value that is neither quoted nor bracketed is one run of characters: a truth
value, a whole number of 64 bits, a fraction, a date or a time. Underscores may
separate digits, and decimal numbers have no needless zeros in front.
-/

namespace DurationCalc.Settings.Toml

/-- Take out the underscores, provided that each stands between two characters of a kind. -/
def withoutUnderscores? (kind : Char → Bool) (characters : List Char) : Option (List Char) :=
  let pieces := Text.splitAtEach '_' characters
  let proper := (pieces.zipIdx).all fun (piece, index) =>
    (index = 0 || piece.head?.any kind) &&
      (index + 1 = pieces.length || piece.getLast?.any kind)
  if proper then some pieces.flatten else none

def digitOf? (character : Char) : Option Nat :=
  if character.isDigit then some (character.toNat - '0'.toNat)
  else if 'a' ≤ character ∧ character ≤ 'f' then some (character.toNat - 'a'.toNat + 10)
  else if 'A' ≤ character ∧ character ≤ 'F' then some (character.toNat - 'A'.toNat + 10)
  else none

def isDigitOf (base : Nat) (character : Char) : Bool :=
  (digitOf? character).any fun digit => digit < base

/-- The value of digits in a base. At least one is needed. -/
def valueInBase? (base : Nat) (digits : List Char) : Option Nat :=
  if digits.isEmpty then none
  else digits.foldlM (fun value character =>
    (digitOf? character).bind fun digit =>
      if digit < base then some (base * value + digit) else none) 0

/-- A whole number in a base other than ten, without its mark. -/
def based? (base : Nat) (characters : List Char) : Option Setting := do
  let digits ← withoutUnderscores? (isDigitOf base) characters
  let value ← valueInBase? base digits
  if Setting.isSignedWord value then some (.integer value) else none

/-- A decimal number: whole without a point and a power of ten, else a fraction. -/
def decimal? (characters : List Char) : Option Setting := do
  let plain ← withoutUnderscores? Char.isDigit characters
  let decimal := Text.Decimal.ofText plain
  if !decimal.hasPlainWhole || !decimal.hasFullFraction || !decimal.hasFullPower then none
  else if decimal.isWhole then
    let value ← Text.signedNumeral? plain
    if Setting.isSignedWord value then some (.integer value) else none
  else
    match decimal.toBinary64 with
    | .infinite _ => none
    | value => some (.fraction value)

/-- The fractions that are written as words, with an optional sign. -/
def wordFraction? (characters : List Char) : Option Setting :=
  let (sign, body) := Text.cutSign characters
  if body = "inf".toList then some (.fraction (.infinite (sign = some '-')))
  else if body = "nan".toList then some (.fraction .nan)
  else none

/-- The value of a run of characters. Dates and times stay texts. -/
def scalar? (characters : List Char) : Option Setting :=
  match characters with
  | '0' :: 'x' :: digits => based? 16 digits
  | '0' :: 'o' :: digits => based? 8 digits
  | '0' :: 'b' :: digits => based? 2 digits
  | _ =>
      if characters = "true".toList then some (.truth true)
      else if characters = "false".toList then some (.truth false)
      else if Text.isMoment characters then some (.text (String.ofList characters))
      else (wordFraction? characters).or (decimal? characters)

end DurationCalc.Settings.Toml
