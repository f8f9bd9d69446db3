import DurationCalc.Calculation
import DurationCalc.Output.Table

/-!
# Reports on the screen

The results of a calculation are shown in one of three layouts. As lists, the
answers go to the output and the complaints to the error output, each list with
a comma and a line end between its items. As JSON, both lists stand in one
object. As a table, each expression has a row.
-/

namespace DurationCalc.Output

open Expression (Fault)

/-- A list as it is shown: nothing at all when it is empty. -/
def listText (items : List String) : String :=
  if items.isEmpty then "" else ",\n".intercalate items ++ "\n"

def hexDigit (value : Nat) : Char :=
  (Nat.toDigits 16 value).headD '0'

def jsonCharacter (character : Char) : String :=
  if character = '"' then "\\\""
  else if character = '\\' then "\\\\"
  else if character = '\n' then "\\n"
  else if character = '\r' then "\\r"
  else if character = '\t' then "\\t"
  else if character = '\x08' then "\\b"
  else if character = '\x0c' then "\\f"
  else if character.toNat < 0x20 then
    "\\u00" ++ String.ofList [hexDigit (character.toNat / 16), hexDigit (character.toNat % 16)]
  else character.toString

def jsonString (text : String) : String :=
  "\"" ++ String.join (text.toList.map jsonCharacter) ++ "\""

/-- A list of texts as JSON, one item a line, indented for an object of depth one. -/
def jsonList (items : List String) : String :=
  if items.isEmpty then "[]"
  else
    "[\n" ++ ",\n".intercalate (items.map fun item => "    " ++ jsonString item) ++ "\n  ]"

def reportJson (report : Report) : String :=
  "\x7b\n  \"answers\": " ++ jsonList report.answers ++
    ",\n  \"errors\": " ++ jsonList report.complaints ++ "\n\x7d\n"

/-- What the quanta of a value are, or a dash for a fault. -/
def quantaText : Except Fault Span → String
  | .ok span => String.ofList (Text.integerText span.count) ++ " @ " ++ span.rate.text ++ "/s"
  | .error _ => "-"

def complaintText (result : Except Fault Span) : String :=
  (Report.complaint? result).getD ""

/-- Results as a table with a numbered row for each. -/
def resultTable (results : List (Except Fault Span)) : String :=
  let numbers := (List.range results.length).map fun index =>
    String.ofList (Text.digits (index + 1))
  table
    [{ heading := "#", alignment := .center, emphasised := true, cells := numbers },
     { heading := "answer", alignment := .center, emphasised := false,
       cells := results.map Report.answer },
     { heading := "quanta", alignment := .center, emphasised := false,
       cells := results.map quantaText },
     { heading := "error", alignment := .left, emphasised := false,
       cells := results.map complaintText }]
    results.length ++ "\n"

end DurationCalc.Output
