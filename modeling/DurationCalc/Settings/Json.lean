import DurationCalc.Settings.Setting
import DurationCalc.Text.Reader

/-!
# Settings written as JSON

A reader of the strict JSON grammar. Whole numbers that fit 64 bits stay whole
and all others become binary fractions; a fraction that is too large is refused.
Of two members with one name the later one counts. Lists and
objects nest less than 128 deep.
-/

namespace DurationCalc.Settings.Json

/-- The characters that may stand between the parts of a document. -/
def isSpace (character : Char) : Bool :=
  character = ' ' || character = '\t' || character = '\n' || character = '\r'

def skipSpace : Reader Unit := do
  let _ ← Reader.takeAll isSpace

def hexValue? (characters : List Char) : Option Nat :=
  characters.foldlM (fun value character => do
    let digit ←
      if character.isDigit then some (character.toNat - '0'.toNat)
      else if 'a' ≤ character ∧ character ≤ 'f' then some (character.toNat - 'a'.toNat + 10)
      else if 'A' ≤ character ∧ character ≤ 'F' then some (character.toNat - 'A'.toNat + 10)
      else none
    return 16 * value + digit) 0

/-- The character with a code point, unless no character has it. -/
def charOf? (code : Nat) : Option Char :=
  if code.isValidChar then some (Char.ofNat code) else none

def fourDigits : Reader Nat := do
  match hexValue? (← Reader.takeCount 4) with
  | some value => return value
  | none => failure

/-- The code unit of an escape, together with the second half of a surrogate pair. -/
def unicodeEscape : Reader Char := do
  let high ← fourDigits
  let code ←
    if 0xD800 ≤ high ∧ high ≤ 0xDBFF then do
      Reader.expect ['\\', 'u']
      let low ← fourDigits
      if 0xDC00 ≤ low ∧ low ≤ 0xDFFF then
        pure (0x10000 + (high - 0xD800) * 0x400 + (low - 0xDC00))
      else failure
    else pure high
  match charOf? code with
  | some character => return character
  | none => failure

def escape : Reader Char := do
  match ← Reader.take with
  | '"' => return '"'
  | '\\' => return '\\'
  | '/' => return '/'
  | 'b' => return '\x08'
  | 'f' => return '\x0c'
  | 'n' => return '\n'
  | 'r' => return '\r'
  | 't' => return '\t'
  | 'u' => unicodeEscape
  | _ => failure

/-- The rest of a string whose opening quote has been taken. -/
def stringBody : Reader String := do
  let reversed ← Reader.untilDone (fun taken => do
    let character ← Reader.take
    if character = '"' then return .inr taken
    else if character = '\\' then return .inl ((← escape) :: taken)
    else if character.toNat < 0x20 then failure
    else return .inl (character :: taken)) []
  return String.ofList reversed.reverse

def isNumberCharacter (character : Char) : Bool :=
  character.isAlphanum || character = '+' || character = '-' || character = '.'

/-- The number that a run of characters spells. A negative zero is a fraction. -/
def numberOf? (characters : List Char) : Option Setting :=
  let decimal := Text.Decimal.ofText characters
  if decimal.sign = some '+' || !decimal.hasPlainWhole || !decimal.hasFullFraction
      || !decimal.hasFullPower then none
  else
    match Text.signedNumeral? characters with
    | some value =>
        if (Setting.isSignedWord value || Setting.isUnsignedWord value)
            && !(decimal.isNegative && value = 0) then
          some (.integer value)
        else some (.fraction decimal.toBinary64)
    | none =>
        match decimal.toBinary64 with
        | .infinite _ => none
        | value => some (.fraction value)

def number : Reader Setting := do
  match numberOf? (← Reader.takeAll isNumberCharacter) with
  | some value => return value
  | none => failure

def elements (value : Reader Setting) : Reader (List Setting) := do
  skipSpace
  if ← Reader.takes [']'] then return []
  let reversed ← Reader.untilDone (fun taken => do
    let next ← value
    skipSpace
    if ← Reader.takes [','] then return .inl (next :: taken)
    Reader.expect [']']
    return .inr (next :: taken)) []
  return reversed.reverse

def members (value : Reader Setting) : Reader (List (String × Setting)) := do
  skipSpace
  if ← Reader.takes ['}'] then return []
  Reader.untilDone (fun taken => do
    skipSpace
    Reader.expect ['"']
    let key ← stringBody
    skipSpace
    Reader.expect [':']
    let extended := Setting.putEntry key (← value) taken
    skipSpace
    if ← Reader.takes [','] then return .inl extended
    Reader.expect ['}']
    return .inr extended) []

def scalar : Reader Setting := do
  match ← Reader.peek with
  | some '"' => do
      Reader.expect ['"']
      return .text (← stringBody)
  | some 't' => do
      Reader.expect "true".toList
      return .truth true
  | some 'f' => do
      Reader.expect "false".toList
      return .truth false
  | some 'n' => do
      Reader.expect "null".toList
      return .absent
  | _ => number

/-- A value with lists and objects nested at most so deep, and the space before it. -/
def value : Nat → Reader Setting
  | 0 => do
      skipSpace
      scalar
  | depth + 1 => do
      skipSpace
      match ← Reader.peek with
      | some '[' => do
          Reader.expect ['[']
          return .sequence (← elements (value depth))
      | some '{' => do
          Reader.expect ['{']
          return .table (← members (value depth))
      | _ => scalar

def greatestDepth : Nat := 127

def document : Reader Setting := do
  let result ← value greatestDepth
  skipSpace
  return result

/-- The named settings of a document, which has to be an object. -/
def read? (text : String) : Option (List (String × Setting)) :=
  match Reader.readAll document text.toList with
  | some (.table entries) => some entries
  | _ => none

end DurationCalc.Settings.Json
