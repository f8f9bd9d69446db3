import DurationCalc.Binary64.Arithmetic
import DurationCalc.Calculation

/-!
# Spreadsheet functions

A cell holds exactly one expression, and all arithmetic on cells happens in
milliseconds, without rounding. Sums and differences are shown as canonical
texts; the ratio of two cells is a binary fraction.
-/

namespace DurationCalc

inductive CellError where
  | faulty (fault : Expression.Fault)
  /-- The cell holds several expressions. -/
  | crowded (cell : String) (count : Nat)
  | missing
  | zeroDivisor
deriving DecidableEq, Repr

def CellError.message : CellError → String
  | .faulty fault => fault.message
  | .crowded cell count =>
      "\"" ++ cell ++ "\" holds " ++ String.ofList (Text.digits count) ++
        " expressions, a cell takes exactly one"
  | .missing => "a duration is required"
  | .zeroDivisor => "cannot divide by a zero duration"

namespace Cell

/-- The milliseconds that a cell holds. That it holds several expressions comes before any fault. -/
def millis (cell : String) : Except CellError Int :=
  match slotsOf cell with
  | [] => .error .missing
  | [.ok terms] => .ok (total terms .milliseconds).count
  | [.error fault] => .error (.faulty fault)
  | slots => .error (.crowded cell slots.length)

/-- The sum of the cells that are not blank, or the error of the first one that has no value. -/
def sumMillis : List String → Except CellError Int
  | [] => .ok 0
  | cell :: later =>
      if Text.isBlankText cell then sumMillis later
      else do
        let first ← millis cell
        let rest ← sumMillis later
        return first + rest

def sum (rows : List (List String)) : Except CellError String :=
  (sumMillis rows.flatten).map durationText

def difference (minuend subtrahend : String) : Except CellError String := do
  let first ← millis minuend
  let second ← millis subtrahend
  return durationText (first - second)

def ratio (dividend divisor : String) : Except CellError Binary64 := do
  let first ← millis dividend
  let second ← millis divisor
  if second = 0 then .error .zeroDivisor
  else return (Binary64.ofInt first).divide (Binary64.ofInt second)

end Cell

end DurationCalc
