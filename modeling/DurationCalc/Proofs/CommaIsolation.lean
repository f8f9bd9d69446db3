import DurationCalc.Calculation
import DurationCalc.Proofs.ExpressionRuns
import Mathlib.Data.List.DropRight

/-!
# Expressions between commas do not affect each other

Whatever stands before a comma, the reader starts afresh after it. What is read
from both sides of a comma is therefore read from each side alone, for lexemes
and for texts. The number of slots follows from a count kept at every step: one
slot for each comma, and one for an expression that no comma ends.
-/

namespace DurationCalc

namespace Expression

namespace Stage

/-- How many slots have been handed out for the expression under way. -/
def delivered : Stage → Nat
  | skipping => 1
  | _ => 0

theorem delivered_of_ne_skipping {stage : Stage} (live : stage ≠ skipping) :
    stage.delivered = 0 := by
  cases stage with
  | skipping => exact absurd rfl live
  | _ => rfl

/-- Each step hands out what the comma demands, or what will not be handed out at the comma. -/
theorem length_step_add_delivered (stage : Stage) (lexeme : String) :
    (stage.step lexeme).1.toList.length + stage.delivered =
      (if lexeme = "," then 1 else 0) + (stage.step lexeme).2.delivered := by
  by_cases isComma : lexeme = ","
  · subst isComma
    cases stage <;> rfl
  rw [if_neg isComma]
  by_cases skips : stage = skipping
  · rw [skips, step_skipping isComma]
    rfl
  rw [delivered_of_ne_skipping skips]
  rcases moves_or_rejects skips isComma with ⟨next, moves⟩ | ⟨fault, rejects⟩
  · rw [moves.step_eq, delivered_of_ne_skipping moves.next_ne_skipping]
    rfl
  · rw [rejects.step_eq]
    rfl

theorem length_completed_add_delivered (stage : Stage) (lexemes : List String) :
    (stage.completed lexemes).length + stage.delivered =
      lexemes.count "," + (stage.advance lexemes).delivered := by
  induction lexemes generalizing stage with
  | nil => simp
  | cons lexeme later ih =>
      have first := length_step_add_delivered stage lexeme
      have rest := ih (stage.step lexeme).2
      rw [completed_cons, advance_cons, List.length_append, List.count_cons]
      simp only [beq_iff_eq]
      omega

theorem step_ne_start (stage : Stage) {lexeme : String} (notComma : lexeme ≠ ",") :
    (stage.step lexeme).2 ≠ start := by
  by_cases skips : stage = skipping
  · rw [skips, step_skipping notComma]
    simp [start]
  rcases moves_or_rejects skips notComma with ⟨next, moves⟩ | ⟨fault, rejects⟩
  · rw [moves.step_eq]
    exact moves.next_ne_start
  · rw [rejects.step_eq]
    simp [start]

@[simp] theorem advance_append_comma (stage : Stage) (lexemes : List String) :
    stage.advance (lexemes ++ [","]) = start := by
  simp [advance_append]

/-- At the end a slot is due unless nothing is under way or its slot was handed out. -/
theorem length_finish_add_delivered (stage : Stage) :
    stage.finish.toList.length + stage.delivered = if stage = start then 0 else 1 := by
  cases stage with
  | beforeNumber draft =>
      cases fresh : draft.isFresh with
      | true => simp [finish, delivered, start, (draft.isFresh_iff).mp fresh, Draft.isFresh]
      | false =>
          have underWay : draft ≠ {} := by
            rw [ne_eq, ← draft.isFresh_iff, fresh]
            exact Bool.false_ne_true
          simp [finish, delivered, start, fresh, underWay]
  | afterNumber draft whole number => simp [finish, delivered, start]
  | afterUnit draft whole => simp [finish, delivered, start]
  | skipping => simp [finish, delivered, start]

end Stage

open Stage

/-- The lexemes after the last comma, which are all of them when there is no comma. -/
def afterLastComma (lexemes : List String) : List String :=
  lexemes.rtakeWhile (· ≠ ",")

@[simp] theorem afterLastComma_append_comma (lexemes : List String) :
    afterLastComma (lexemes ++ [","]) = [] := by
  simp [afterLastComma]

theorem afterLastComma_of_commaFree {lexemes : List String} (commaFree : "," ∉ lexemes) :
    afterLastComma lexemes = lexemes := by
  rw [afterLastComma, List.rtakeWhile_eq_self_iff]
  intro lexeme isThere
  simp only [ne_eq, decide_eq_true_eq]
  rintro rfl
  exact commaFree isThere

/-- The reader is back at the start exactly when nothing follows the last comma. -/
theorem advance_start_eq_start_iff (lexemes : List String) :
    start.advance lexemes = start ↔ afterLastComma lexemes = [] := by
  induction lexemes using List.reverseRecOn with
  | nil => simp [afterLastComma]
  | append_singleton earlier last _ =>
      by_cases isComma : last = ","
      · simp [isComma, afterLastComma]
      · simp [afterLastComma, isComma, advance_append, step_ne_start]

/-- Every comma yields one slot, and so does what follows the last comma. -/
theorem length_read (lexemes : List String) :
    (read lexemes).length =
      lexemes.count "," + if afterLastComma lexemes = [] then 0 else 1 := by
  have onTheWay := length_completed_add_delivered start lexemes
  have atTheEnd := length_finish_add_delivered (start.advance lexemes)
  have atStart : start.delivered = 0 := rfl
  simp only [advance_start_eq_start_iff] at atTheEnd
  rw [read, List.length_append]
  omega

theorem read_append_comma (lexemes : List String) :
    read (lexemes ++ [","]) =
      start.completed lexemes ++ ((start.advance lexemes).step ",").1.toList := by
  rw [read, advance_append_comma, completed_append, completed_cons, completed_nil]
  simp [finish, start, Draft.isFresh]

/-- What is read from both sides of a comma is read from each side alone. -/
theorem read_append_comma_append (first second : List String) :
    read (first ++ [","] ++ second) = read (first ++ [","]) ++ read second := by
  rw [read_append, advance_append_comma, read_append_comma, completed_append, read]
  simp

end Expression

open Expression (read afterLastComma)

theorem split_append_comma (left right : String) :
    Lexeme.split (left ++ "," ++ right) = Lexeme.split left ++ [","] ++ Lexeme.split right := by
  have isOne : Lexeme.isDelimiter ',' = true := rfl
  have isComma : String.singleton ',' = "," := rfl
  have cut := Lexeme.split_append_delimiter isOne left right
  rw [isComma] at cut
  rw [cut, List.append_assoc, List.singleton_append]

theorem split_last_comma (text : String) :
    Lexeme.split (text ++ ",") = Lexeme.split text ++ [","] := by
  have cut := split_append_comma text ""
  rwa [String.append_empty, Lexeme.split_empty, List.append_nil] at cut

theorem slotsOf_append_comma_append (left right : String) :
    slotsOf (left ++ "," ++ right) = slotsOf (left ++ ",") ++ slotsOf right := by
  rw [slotsOf, slotsOf, slotsOf, split_append_comma, split_last_comma]
  exact Expression.read_append_comma_append (Lexeme.split left) (Lexeme.split right)

theorem evaluate_append_comma_append (left right : String) (rate : Rate) :
    evaluate (left ++ "," ++ right) rate =
      evaluate (left ++ ",") rate ++ evaluate right rate := by
  rw [evaluate, slotsOf_append_comma_append, values, List.map_append]
  rfl

/--
A comma keeps what stands on its two sides apart: in lists of lexemes, in the
number of slots, and in the answers and complaints of a text at any rate.
-/
theorem comma_isolates :
    (∀ first second : List String,
      read (first ++ [","] ++ second) = read (first ++ [","]) ++ read second) ∧
      (∀ lexemes : List String,
        (read lexemes).length =
          lexemes.count "," + if afterLastComma lexemes = [] then 0 else 1) ∧
      ∀ (left right : String) (rate : Rate),
        (calculate (left ++ "," ++ right) rate).answers =
            (calculate (left ++ ",") rate).answers ++ (calculate right rate).answers ∧
          (calculate (left ++ "," ++ right) rate).complaints =
            (calculate (left ++ ",") rate).complaints ++ (calculate right rate).complaints := by
  refine ⟨Expression.read_append_comma_append, Expression.length_read, ?_⟩
  intro left right rate
  simp only [calculate_eq_ofValues, evaluate_append_comma_append, Report.ofValues]
  exact ⟨List.map_append, List.filterMap_append⟩

end DurationCalc
