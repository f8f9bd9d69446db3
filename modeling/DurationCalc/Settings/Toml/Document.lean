import DurationCalc.Settings.Toml.Outline
import DurationCalc.Settings.Toml.Scalar
import DurationCalc.Text.Reader

/-!
# Settings written as TOML

A document is a sequence of lines: table headers, keys with their values,
comments and blank lines. Keys that come after a header belong to its table.
Within brackets and braces a line end or a comment may stand where a space may,
unless it would divide a key, and a comma may follow the last part.
-/

namespace DurationCalc.Settings.Toml

/-- How deep arrays and inline tables may nest, and how many keys may stand in a row. -/
def greatestDepth : Nat := 80

/-- Spaces and tabs, which may stand between the parts of a line. -/
def isSpace (character : Char) : Bool :=
  character = ' ' || character = '\t'

/-- Control characters other than the tab have no place in comments and one-line strings. -/
def isPrintable (character : Char) : Bool :=
  character = '\t' || (0x20 ≤ character.toNat && character.toNat ≠ 0x7F)

def isBareKey (character : Char) : Bool :=
  character.isAlphanum || character = '-' || character = '_'

def isScalarCharacter (character : Char) : Bool :=
  character.isAlphanum || "+-_.:".toList.contains character

def skipSpace : Reader Unit := do
  let _ ← Reader.takeAll isSpace

def takesLineEnd : Reader Bool := do
  if ← Reader.takes ['\n'] then return true
  Reader.takes ['\r', '\n']

def skipComment : Reader Unit := do
  if ← Reader.takes ['#'] then
    let _ ← Reader.takeAll isPrintable

/-- Space and a comment, then the end of the line or of the document. -/
def endOfLine : Reader Unit := do
  skipSpace
  skipComment
  unless ← takesLineEnd do
    if (← Reader.peek).isSome then failure

/-- Space, comments and line ends in any number. -/
def skipLines : Reader Unit :=
  Reader.untilDone (fun _ => do
    skipSpace
    skipComment
    if ← takesLineEnd then return .inl () else return .inr ()) ()

def codePoint (count : Nat) : Reader Char := do
  match valueInBase? 16 (← Reader.takeCount count) with
  | some code => if code.isValidChar then return Char.ofNat code else failure
  | none => failure

def escape : Reader Char := do
  match ← Reader.take with
  | '"' => return '"'
  | '\\' => return '\\'
  | 'b' => return '\x08'
  | 'e' => return '\x1b'
  | 'f' => return '\x0c'
  | 'n' => return '\n'
  | 'r' => return '\r'
  | 't' => return '\t'
  | 'x' => codePoint 2
  | 'u' => codePoint 4
  | 'U' => codePoint 8
  | _ => failure

/-- The rest of a one-line string with escapes. -/
def basicString : Reader (List Char) := do
  let reversed ← Reader.untilDone (fun taken => do
    let character ← Reader.take
    if character = '"' then return .inr taken
    else if character = '\\' then return .inl ((← escape) :: taken)
    else if isPrintable character then return .inl (character :: taken)
    else failure) []
  return reversed.reverse

/-- The rest of a one-line string without escapes. -/
def literalString : Reader (List Char) := do
  let taken ← Reader.takeAll fun character => character ≠ '\'' && isPrintable character
  Reader.expect ['\'']
  return taken

/-- A backslash at the end of a line: it and all white space after it disappear, if there is a line end. -/
def takesLineJoin : Reader Bool := do
  let before ← get
  skipSpace
  if ← takesLineEnd then
    let _ ← Reader.takeAll fun character =>
      isSpace character || character = '\n' || character = '\r'
    return true
  else
    set before
    return false

/--
The rest of a string over several lines, up to three quotes. Up to two more
quotes before them belong to the string. The first line end is dropped.
-/
def longString (quote : Char) (escapes : Bool) : Reader (List Char) := do
  let _ ← takesLineEnd
  let closing := List.replicate 3 quote
  let reversed ← Reader.untilDone (fun taken => do
    if ← Reader.takes (closing ++ [quote, quote]) then return .inr (quote :: quote :: taken)
    else if ← Reader.takes (closing ++ [quote]) then return .inr (quote :: taken)
    else if ← Reader.takes closing then return .inr taken
    else if ← takesLineEnd then return .inl ('\n' :: taken)
    else
      let character ← Reader.take
      if escapes && character = '\\' then
        if ← takesLineJoin then return .inl taken
        else return .inl ((← escape) :: taken)
      else if isPrintable character then return .inl (character :: taken)
      else failure) []
  return reversed.reverse

def quoted : Reader String := do
  if ← Reader.takes "\"\"\"".toList then return String.ofList (← longString '"' true)
  else if ← Reader.takes "'''".toList then return String.ofList (← longString '\'' false)
  else if ← Reader.takes ['"'] then return String.ofList (← basicString)
  else
    Reader.expect ['\'']
    return String.ofList (← literalString)

/-- One key, bare or quoted on one line. -/
def simpleKey : Reader String := do
  if ← Reader.takes ['"'] then return String.ofList (← basicString)
  else if ← Reader.takes ['\''] then return String.ofList (← literalString)
  else
    let key ← Reader.takeAll isBareKey
    if key.isEmpty then failure
    return String.ofList key

def dottedKey : Reader (List String) := do
  let reversed ← Reader.untilDone (fun taken => do
    skipSpace
    let extended := (← simpleKey) :: taken
    skipSpace
    if ← Reader.takes ['.'] then return .inl extended else return .inr extended) []
  if greatestDepth < reversed.length then failure
  return reversed.reverse

/-- An unquoted value. A date and a time may have one space between them. -/
def scalar : Reader Setting := do
  let first ← Reader.takeAll isScalarCharacter
  let rest ← get
  let spaced ← match Text.afterDate? first, rest with
    | some [], ' ' :: digit :: _ =>
        if digit.isDigit then do
          Reader.expect [' ']
          let second ← Reader.takeAll isScalarCharacter
          pure (first ++ ' ' :: second)
        else pure first
    | _, _ => pure first
  match scalar? spaced with
  | some value => return value
  | none => failure

/-- The elements of an array after its opening bracket. A comma may follow the last one. -/
def elements (value : Reader Setting) : Reader (List Setting) := do
  let reversed ← Reader.untilDone (fun taken => do
    skipLines
    if ← Reader.takes [']'] then return .inr taken
    let extended := (← value) :: taken
    skipLines
    if ← Reader.takes [','] then return .inl extended
    Reader.expect [']']
    return .inr extended) []
  return reversed.reverse

/-- A key with its value, added to an inline table. -/
def inlineEntry (value : Reader Setting) (entries : Entries) : Reader Entries := do
  let path ← dottedKey
  skipLines
  Reader.expect ['=']
  skipLines
  match entries.defineDotted path (← value) with
  | some extended => return extended
  | none => failure

/-- The entries of an inline table after its opening brace. -/
def inlineEntries (value : Reader Setting) : Reader Entries :=
  Reader.untilDone (fun entries => do
    skipLines
    if ← Reader.takes ['}'] then return .inr entries
    let extended ← inlineEntry value entries
    skipLines
    if ← Reader.takes [','] then return .inl extended
    Reader.expect ['}']
    return .inr extended) []

def plain : Reader Setting := do
  match ← Reader.peek with
  | some '"' | some '\'' => return .text (← quoted)
  | _ => scalar

/-- A value with arrays and inline tables nested at most so deep. -/
def value : Nat → Reader Setting
  | 0 => plain
  | depth + 1 => do
      match ← Reader.peek with
      | some '[' => do
          Reader.expect ['[']
          return .sequence (← elements (value depth))
      | some '{' => do
          Reader.expect ['{']
          return .table (settingsOf (← inlineEntries (value depth)))
      | _ => plain

/-- What has been read of a document: the path of the last header and all that was given. -/
structure Draft where
  header : List String := []
  entries : Entries := []

/-- A header, after its opening bracket. -/
def header (draft : Draft) : Reader Draft := do
  let series ← Reader.takes ['[']
  let path ← dottedKey
  Reader.expect (if series then [']', ']'] else [']'])
  match path.getLast? with
  | none => failure
  | some key =>
      let opened := if series then Entries.openNext key else Entries.openTable key
      match Entries.descend opened path.dropLast draft.entries with
      | some entries => return { header := path, entries }
      | none => failure

def assignment (draft : Draft) : Reader Draft := do
  let path ← dottedKey
  Reader.expect ['=']
  skipSpace
  let setting ← value greatestDepth
  match Entries.descend (Entries.defineDotted path setting) draft.header draft.entries with
  | some entries => return { draft with entries }
  | none => failure

def document : Reader Entries := do
  let _ ← Reader.takes ['\ufeff']
  Reader.untilDone (fun draft => do
    skipLines
    if (← Reader.peek).isNone then return .inr draft.entries
    let next ← if ← Reader.takes ['['] then header draft else assignment draft
    endOfLine
    return .inl next) ({} : Draft)

def read? (text : String) : Option (List (String × Setting)) :=
  (Reader.readAll document text.toList).map settingsOf

end DurationCalc.Settings.Toml
