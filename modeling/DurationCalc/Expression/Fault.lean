/-!
# What is wrong with an expression

An expression is given up at the first lexeme that cannot continue it. The fault
keeps that lexeme as it was written and, where it helps, what could have stood
in its place.
-/

namespace DurationCalc.Expression

/-- What could have continued an expression. -/
inductive Expected where
  | number
  | unitOrDelimiter
  | delimiterOrNumber
deriving DecidableEq, Repr

def Expected.description : Expected → String
  | .number => "a number"
  | .unitOrDelimiter => "a unit or a delimiter"
  | .delimiterOrNumber => "a delimiter or a number"

inductive Fault where
  /-- A sign or a comma where a number has to stand. -/
  | operatorOutOfPlace (lexeme : String)
  /-- A unit out of turn, or anything but a unit or delimiter right after a number. -/
  | misplaced (lexeme : String) (expected : Expected)
  /-- A lexeme that is no numeral where a number has to stand. -/
  | notANumber (lexeme : String)
deriving DecidableEq, Repr

namespace Fault

/-- The lexeme at which the expression was given up. -/
def lexeme : Fault → String
  | operatorOutOfPlace lexeme => lexeme
  | misplaced lexeme _ => lexeme
  | notANumber lexeme => lexeme

def message : Fault → String
  | operatorOutOfPlace lexeme =>
      "Unexpected \"" ++ lexeme ++ "\", did you forget to put a time before?"
  | misplaced lexeme expected =>
      "Unexpected \"" ++ lexeme ++ "\", expecting " ++ expected.description
  | notANumber lexeme => "\"" ++ lexeme ++ "\" is not a valid time value"

end Fault

end DurationCalc.Expression
