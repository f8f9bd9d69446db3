import DurationCalc.Expression.Reader

/-!
# Reading with one set of registers

A stage of the reader keeps just what has been read up to there, so nothing can be
out of place in it. One may also read with a fixed set of registers that are filled
and emptied on the way, with the slots among them. Which of them are filled is then
a matter of what has come, and when an expression is given up they keep what they
hold until the next comma empties them.
-/

namespace DurationCalc.Expression

structure Registers where
  /-- What has to come next; nothing while an expression that was given up is skipped. -/
  awaited : Option Expected := some .number
  /-- The values of the finished terms, in order. -/
  terms : List Int := []
  /-- What the numbers of the term under way amount to that have got their unit. -/
  total : Option Int := none
  /-- A number that may still get its unit. -/
  pending : Option Int := none
  /-- The sign before the term under way. -/
  sign : Option Sign := none
  slots : List Slot := []

namespace Registers

/-- Nothing has been read of the expression yet. -/
def isFresh (registers : Registers) : Bool :=
  registers.terms.isEmpty && registers.total.isNone && registers.pending.isNone &&
    registers.sign.isNone

/-- The value of the term under way, in which a number without a unit counts milliseconds. -/
def term (registers : Registers) : Int :=
  let amount := registers.total.getD 0 + registers.pending.getD 0
  if registers.sign = some .minus then -amount else amount

/-- Move the term under way to the finished ones. -/
def closeTerm (registers : Registers) : Registers :=
  { registers with
    terms := registers.terms ++ [registers.term]
    total := none
    pending := none
    sign := none }

/-- Hand out the terms of the expression, the one under way included. -/
def closeExpression (registers : Registers) : Registers :=
  { registers.closeTerm with
    terms := []
    slots := registers.slots ++ [.ok registers.closeTerm.terms] }

/-- Give the expression up; only its slot and what is awaited change. -/
def fail (registers : Registers) (fault : Fault) : Registers :=
  { registers with awaited := none, slots := registers.slots ++ [.error fault] }

/-- Empty all registers but the slots. -/
def reset (registers : Registers) : Registers :=
  { slots := registers.slots }

/-- Give the pending number its unit. -/
def takeUnit (registers : Registers) (unit : TimeUnit) : Registers :=
  { registers with
    awaited := some .delimiterOrNumber
    total := some (registers.total.getD 0 + registers.pending.getD 0 * unit.millis)
    pending := none }

/-- Read one lexeme. -/
def step (registers : Registers) (lexeme : String) : Registers :=
  match registers.awaited, Token.ofLexeme lexeme with
  | none, .comma => registers.reset
  | none, _ => registers
  | some .number, .comma => (registers.fail (.operatorOutOfPlace lexeme)).reset
  | some _, .comma => registers.closeExpression.reset
  | some .number, .sign sign =>
      if registers.isFresh then { registers with sign := some sign }
      else registers.fail (.operatorOutOfPlace lexeme)
  | some _, .sign sign =>
      { registers.closeTerm with awaited := some .number, sign := some sign }
  | some .unitOrDelimiter, .unit unit => registers.takeUnit unit
  | some expected, .unit _ => registers.fail (.misplaced lexeme expected)
  | some .unitOrDelimiter, .number _ => registers.fail (.misplaced lexeme .unitOrDelimiter)
  | some .unitOrDelimiter, .stray => registers.fail (.misplaced lexeme .unitOrDelimiter)
  | some _, .number value =>
      { registers with awaited := some .unitOrDelimiter, pending := some value }
  | some _, .stray => registers.fail (.notANumber lexeme)

/-- The registers after these lexemes, from the start. -/
def after (lexemes : List String) : Registers :=
  lexemes.foldl step {}

/-- The slots, with that of the expression under way if there is one that was not given up. -/
def finish (registers : Registers) : List Slot :=
  if registers.awaited = none ∨ (registers.awaited = some .number ∧ registers.isFresh = true) then
    registers.slots
  else registers.closeExpression.slots

@[simp] theorem after_nil : after [] = {} := rfl

@[simp] theorem after_append_singleton (lexemes : List String) (lexeme : String) :
    after (lexemes ++ [lexeme]) = (after lexemes).step lexeme := by
  simp [after]

/-- The registers after a fault keep the number that was pending, and the comma empties them. -/
example : after ["1", "h", "5", "x"] =
      { awaited := none, total := some 3600000, pending := some 5,
        slots := [.error (.misplaced "x" .unitOrDelimiter)] } ∧
    after ["1", "h", "5", "x", ","] =
      { slots := [.error (.misplaced "x" .unitOrDelimiter)] } := ⟨rfl, rfl⟩

end Registers

end DurationCalc.Expression
