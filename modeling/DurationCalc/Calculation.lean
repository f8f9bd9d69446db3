import DurationCalc.Clock
import DurationCalc.Expression.Reader
import DurationCalc.Lexeme
import DurationCalc.Span

/-!
# Calculations

A text of comma-separated expressions is evaluated at a rate: every term is
converted to quanta on its own and the counts are added, so that an answer is a
whole number of quanta. Two terms of sixteen milliseconds at thirty quanta per
second make no quantum at all, not one. A report shows the answers as canonical
texts, with a mark where an expression failed, and the complaints beside them.
-/

namespace DurationCalc

open Expression (Fault Slot)

/-- The sum of terms given in milliseconds, each converted to the rate before adding. -/
def total (terms : List Int) (rate : Rate) : Span :=
  ⟨terms.foldr (fun millis later => ((Span.ofMillis millis).convert rate).count + later) 0, rate⟩

@[simp] theorem total_nil (rate : Rate) : total [] rate = ⟨0, rate⟩ := rfl

@[simp] theorem count_total_cons (millis : Int) (later : List Int) (rate : Rate) :
    (total (millis :: later) rate).count =
      ((Span.ofMillis millis).convert rate).count + (total later rate).count := rfl

/-- What an expression amounts to: the sum of its terms, or its fault unchanged. -/
def Expression.Slot.value (slot : Slot) (rate : Rate) : Except Fault Span :=
  slot.map fun terms => total terms rate

def values (slots : List Slot) (rate : Rate) : List (Except Fault Span) :=
  slots.map fun slot => Expression.Slot.value slot rate

def slotsOf (text : String) : List Slot :=
  Expression.read (Lexeme.split text)

def evaluate (text : String) (rate : Rate) : List (Except Fault Span) :=
  values (slotsOf text) rate

def Span.text (span : Span) : String :=
  durationText span.millis

/-- The answer that stands for an expression that could not be read. -/
def failureMark : String := "ERROR!"

/-- The rendered answers, one for each expression, and the complaints. -/
structure Report where
  answers : List String := []
  complaints : List String := []
deriving DecidableEq

namespace Report

def answer : Except Fault Span → String
  | .ok span => span.text
  | .error _ => failureMark

def complaint? : Except Fault Span → Option String
  | .ok _ => none
  | .error fault => some fault.message

def ofValues (results : List (Except Fault Span)) : Report where
  answers := results.map answer
  complaints := results.filterMap complaint?

def hasComplaints (report : Report) : Bool :=
  !report.complaints.isEmpty

end Report

/-- Evaluate a text at a rate. A blank text is not read at all: its report is empty. -/
def calculate (text : String) (rate : Rate) : Report :=
  if Text.isBlankText text then {} else .ofValues (evaluate text rate)

theorem split_of_isBlankText {text : String} (blank : Text.isBlankText text = true) :
    Lexeme.split text = [] := by
  have nothingLeft := (Text.strip_eq_nil_iff text.toList).mpr blank
  rw [Lexeme.split, nothingLeft]
  rfl

/-- Reading a blank text all the same would make no difference. -/
theorem calculate_eq_ofValues (text : String) (rate : Rate) :
    calculate text rate = .ofValues (evaluate text rate) := by
  unfold calculate
  split
  · rename_i blank
    rw [evaluate, slotsOf, split_of_isBlankText blank]
    rfl
  · rfl

/-- Blanks make no difference to the slots. -/
theorem slotsOf_eq_of_strip_eq {first second : String}
    (same : Text.strip first.toList = Text.strip second.toList) :
    slotsOf first = slotsOf second := by
  rw [slotsOf, Lexeme.split_eq_of_strip_eq same, slotsOf]

theorem calculate_eq_of_slotsOf_eq {first second : String}
    (same : slotsOf first = slotsOf second) (rate : Rate) :
    calculate first rate = calculate second rate := by
  rw [calculate_eq_ofValues, calculate_eq_ofValues, evaluate, same, evaluate]

end DurationCalc
