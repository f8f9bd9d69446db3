/-!
# Boxed tables

A table is drawn with lines around it and between its columns, but none between
its rows. Every cell has a space on both sides and is as wide as the widest cell
of its column, the heading included. Each character takes one column of the
screen.
-/

namespace DurationCalc.Output

inductive Alignment where
  | left
  /-- In the middle; an odd space goes to the right. -/
  | center
deriving DecidableEq, Repr

structure Column where
  heading : String
  alignment : Alignment
  /-- Emphasised text is bold and white. -/
  emphasised : Bool
  cells : List String

namespace Column

def width (column : Column) : Nat :=
  (column.cells.map String.length).foldl max column.heading.length

/-- The marks that turn emphasis on and off, around a text. -/
def emphasise (text : String) : String :=
  "\x1b[1m\x1b[37m" ++ text ++ "\x1b[22m\x1b[39m"

def run (character : Char) (count : Nat) : String :=
  String.ofList (List.replicate count character)

/-- A cell, padded to the width of the column, with a space on both sides. -/
def cell (column : Column) (text : String) : String :=
  let spare := column.width - text.length
  let before := match column.alignment with
    | .left => 0
    | .center => spare / 2
  let shown := if column.emphasised then emphasise text else text
  run ' ' (before + 1) ++ shown ++ run ' ' (spare - before + 1)

def line (column : Column) : String :=
  run '─' (column.width + 2)

end Column

/-- One line of a table: its parts between a start, dividers and an end. -/
def tableLine (start divider finish : String) (parts : List String) : String :=
  start ++ divider.intercalate parts ++ finish

/-- A table with these columns and so many rows, without a line end after the last line. -/
def table (columns : List Column) (rows : Nat) : String :=
  let body := (List.range rows).map fun row =>
    tableLine "│" "│" "│" (columns.map fun column => column.cell (column.cells.getD row ""))
  "\n".intercalate
    ([tableLine "┌" "┬" "┐" (columns.map Column.line),
      tableLine "│" "│" "│" (columns.map fun column => column.cell column.heading)]
      ++ body
      ++ [tableLine "└" "┴" "┘" (columns.map Column.line)])

end DurationCalc.Output
