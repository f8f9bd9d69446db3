import DurationCalc.Expression.Fault
import DurationCalc.Expression.Token

/-!
# Reading lexemes as expressions

A list of lexemes holds expressions between commas, and every expression yields
one slot: the values of its terms, or the fault at which it was given up. After
a fault the lexemes up to the next comma are skipped, so one bad expression
never spoils the others.

The reader is a machine that is in one of four stages and hands out at most one
slot at each lexeme. It is generous at the end of the text, where an expression
may still be under way: a sign without a term after it then counts as a zero
term, while a comma at the same place is a fault.
-/

namespace DurationCalc.Expression

/-- One expression between commas: the values of its terms in milliseconds, or its fault. -/
abbrev Slot := Except Fault (List Int)

/-- What has been read of the expression under way. -/
structure Draft where
  /-- The values of the finished terms, the latest one first. -/
  finished : List Int := []
  sign : Option Sign := none
deriving DecidableEq, Repr

namespace Draft

/-- Nothing has been read of the expression yet. -/
def isFresh (draft : Draft) : Bool :=
  draft.finished.isEmpty && draft.sign.isNone

/-- Finish the term under way at this amount; a sign starts the next one. -/
def next (draft : Draft) (amount : Nat) (sign : Sign) : Draft where
  finished := Sign.apply draft.sign amount :: draft.finished
  sign := some sign

/-- Finish the expression, with the term under way at this amount: the values of its terms in order. -/
def close (draft : Draft) (amount : Nat) : List Int :=
  (Sign.apply draft.sign amount :: draft.finished).reverse

theorem isFresh_iff (draft : Draft) : draft.isFresh = true ↔ draft = {} := by
  cases draft with
  | mk finished sign => simp [isFresh]

theorem close_eq (draft : Draft) (amount : Nat) :
    draft.close amount = draft.finished.reverse ++ [Sign.apply draft.sign amount] := by
  simp [close]

/-- A sign keeps the terms before it as they would be closed. -/
theorem close_next (draft : Draft) (amount later : Nat) (sign : Sign) :
    (draft.next amount sign).close later =
      draft.close amount ++ [Sign.apply (some sign) later] := by
  simp [close, next]

end Draft

/-- How far the expression under way has been read. -/
inductive Stage where
  /-- A number has to come; a sign may precede it if nothing has been read. -/
  | beforeNumber (draft : Draft)
  /-- A number has come that may still get a unit; `whole` is the amount read before it. -/
  | afterNumber (draft : Draft) (whole number : Nat)
  /-- A unit has come and made the amount of the term `whole`. -/
  | afterUnit (draft : Draft) (whole : Nat)
  /-- The expression was given up; all is skipped up to the next comma. -/
  | skipping
deriving DecidableEq, Repr

namespace Stage

def start : Stage := beforeNumber {}

def reject (fault : Fault) : Option Slot × Stage :=
  (some (.error fault), skipping)

/-- Read one lexeme: the slot that it completes, if any, and the next stage. -/
def step (stage : Stage) (lexeme : String) : Option Slot × Stage :=
  match stage, Token.ofLexeme lexeme with
  | skipping, .comma => (none, start)
  | skipping, _ => (none, skipping)
  | beforeNumber _, .comma => (some (.error (.operatorOutOfPlace lexeme)), start)
  | beforeNumber draft, .sign sign =>
      if draft.isFresh then (none, beforeNumber { sign := some sign })
      else reject (.operatorOutOfPlace lexeme)
  | beforeNumber _, .unit _ => reject (.misplaced lexeme .number)
  | beforeNumber draft, .number value => (none, afterNumber draft 0 value)
  | beforeNumber _, .stray => reject (.notANumber lexeme)
  | afterNumber draft whole number, .comma => (some (.ok (draft.close (whole + number))), start)
  | afterNumber draft whole number, .sign sign =>
      (none, beforeNumber (draft.next (whole + number) sign))
  | afterNumber draft whole number, .unit unit =>
      (none, afterUnit draft (whole + number * unit.millis))
  | afterNumber .., .number _ => reject (.misplaced lexeme .unitOrDelimiter)
  | afterNumber .., .stray => reject (.misplaced lexeme .unitOrDelimiter)
  | afterUnit draft whole, .comma => (some (.ok (draft.close whole)), start)
  | afterUnit draft whole, .sign sign => (none, beforeNumber (draft.next whole sign))
  | afterUnit .., .unit _ => reject (.misplaced lexeme .delimiterOrNumber)
  | afterUnit draft whole, .number value => (none, afterNumber draft whole value)
  | afterUnit .., .stray => reject (.notANumber lexeme)

/-- The slot of the expression that is under way when the lexemes end, if one is. -/
def finish : Stage → Option Slot
  | beforeNumber draft => if draft.isFresh then none else some (.ok (draft.close 0))
  | afterNumber draft whole number => some (.ok (draft.close (whole + number)))
  | afterUnit draft whole => some (.ok (draft.close whole))
  | skipping => none

def advance (stage : Stage) : List String → Stage
  | [] => stage
  | lexeme :: later => (stage.step lexeme).2.advance later

/-- The slots that are completed on the way. -/
def completed (stage : Stage) : List String → List Slot
  | [] => []
  | lexeme :: later => (stage.step lexeme).1.toList ++ (stage.step lexeme).2.completed later

@[simp] theorem advance_nil (stage : Stage) : stage.advance [] = stage := rfl

@[simp] theorem advance_cons (stage : Stage) (lexeme : String) (later : List String) :
    stage.advance (lexeme :: later) = (stage.step lexeme).2.advance later := rfl

@[simp] theorem completed_nil (stage : Stage) : stage.completed [] = [] := rfl

@[simp] theorem completed_cons (stage : Stage) (lexeme : String) (later : List String) :
    stage.completed (lexeme :: later) =
      (stage.step lexeme).1.toList ++ (stage.step lexeme).2.completed later := rfl

theorem advance_append (stage : Stage) (first second : List String) :
    stage.advance (first ++ second) = (stage.advance first).advance second := by
  induction first generalizing stage with
  | nil => rfl
  | cons lexeme later ih => simp [ih]

theorem completed_append (stage : Stage) (first second : List String) :
    stage.completed (first ++ second) =
      stage.completed first ++ (stage.advance first).completed second := by
  induction first generalizing stage with
  | nil => rfl
  | cons lexeme later ih => simp [ih]

end Stage

/-- The slots of a list of lexemes, in order. -/
def read (lexemes : List String) : List Slot :=
  Stage.start.completed lexemes ++ (Stage.start.advance lexemes).finish.toList

def messages (slots : List Slot) : List String :=
  slots.filterMap fun
    | .ok _ => none
    | .error fault => some fault.message

def hasFault (slots : List Slot) : Bool :=
  slots.any fun
    | .ok _ => false
    | .error _ => true

@[simp] theorem read_nil : read [] = [] := rfl

/-- The slots of a list of lexemes are those completed in its first part and what the rest adds. -/
theorem read_append (first second : List String) :
    read (first ++ second) =
      Stage.start.completed first ++
        ((Stage.start.advance first).completed second ++
          ((Stage.start.advance first).advance second).finish.toList) := by
  simp [read, Stage.advance_append, Stage.completed_append]

end DurationCalc.Expression
