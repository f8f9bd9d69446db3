import DurationCalc.Output.Report
import DurationCalc.Proofs.CanonicalReading
import Mathlib.Data.List.Forall2

/-!
# Answers stay what they are

The answers of a calculation are texts again, and calculating them anew at the
same rate gives the same answers. An answer holds one expression wherever it
stands: a canonical text spells one, and the mark of a failure is a single
lexeme that no expression begins with. The first calculation has rounded to the
rate already, so the second one finds nothing left to round.
-/

namespace DurationCalc

open Expression (Slot Fault)

/-- The text holds one expression with this slot, at the end and before a comma. -/
structure HoldsSlot (text : String) (slot : Slot) : Prop where
  atEnd : slotsOf text = [slot]
  beforeComma : slotsOf (text ++ ",") = [slot]

theorem holdsSlot_durationText (millis : Int) :
    HoldsSlot (durationText millis) (.ok [millis]) where
  atEnd := slotsOf_durationText millis
  beforeComma := by
    have spells := spells_split_durationText millis
    rw [slotsOf, split_last_comma]
    exact (Expression.read_append_comma_eq_ok_iff spells.commaFree [millis]).mpr spells

theorem holdsSlot_failureMark :
    HoldsSlot failureMark (.error (.notANumber failureMark)) where
  atEnd := by decide +kernel
  beforeComma := by decide +kernel

theorem slotsOf_append_separator (left right : String) :
    slotsOf (left ++ ",\n" ++ right) = slotsOf (left ++ ",") ++ slotsOf right := by
  have separator : ",\n" = "," ++ "\n" := rfl
  have lineEnd : slotsOf ("\n" ++ right) = slotsOf right := by
    apply slotsOf_eq_of_strip_eq
    rw [String.toList_append, Text.strip_append]
    rfl
  rw [separator, ← String.append_assoc, String.append_assoc, slotsOf_append_comma_append, lineEnd]

/-- Texts that hold one expression each hold them one after the other when they are joined. -/
theorem slotsOf_intercalate {texts : List String} {slots : List Slot}
    (holds : List.Forall₂ HoldsSlot texts slots) :
    slotsOf (",\n".intercalate texts) = slots := by
  induction holds with
  | nil => rfl
  | cons first later ih =>
      cases later with
      | nil =>
          rw [String.intercalate_singleton]
          exact first.atEnd
      | cons second rest =>
          rw [String.intercalate_cons_cons, slotsOf_append_separator, first.beforeComma, ih]
          rfl

/-- The slot that the answer for a slot holds in its turn. -/
def settled (rate : Rate) : Slot → Slot
  | .ok terms => .ok [(total terms rate).millis]
  | .error _ => .error (.notANumber failureMark)

theorem holdsSlot_answer (rate : Rate) (slot : Slot) :
    HoldsSlot (Report.answer (Expression.Slot.value slot rate)) (settled rate slot) := by
  cases slot with
  | ok terms => exact holdsSlot_durationText (total terms rate).millis
  | error fault => exact holdsSlot_failureMark

/-- Rounding to the rate once more does not change a total. -/
theorem answer_settled (rate : Rate) (slot : Slot) :
    Report.answer (Expression.Slot.value (settled rate slot) rate) =
      Report.answer (Expression.Slot.value slot rate) := by
  cases slot with
  | ok terms =>
      have sameTotal : total [(total terms rate).millis] rate = total terms rate :=
        total_millis (total terms rate)
      exact congrArg Span.text sameTotal
  | error fault => rfl

theorem isSome_complaint?_settled (rate : Rate) (slot : Slot) :
    (Report.complaint? (Expression.Slot.value (settled rate slot) rate)).isSome =
      (Report.complaint? (Expression.Slot.value slot rate)).isSome := by
  cases slot <;> rfl

theorem answers_calculate (text : String) (rate : Rate) :
    (calculate text rate).answers =
      (slotsOf text).map fun slot => Report.answer (Expression.Slot.value slot rate) := by
  rw [calculate_eq_ofValues, Report.ofValues, evaluate, values, List.map_map]
  rfl

theorem length_complaints_calculate (text : String) (rate : Rate) :
    (calculate text rate).complaints.length =
      (slotsOf text).countP fun slot =>
        (Report.complaint? (Expression.Slot.value slot rate)).isSome := by
  rw [calculate_eq_ofValues, Report.ofValues, List.length_filterMap_eq_countP, evaluate, values,
    List.countP_map]
  rfl

theorem slotsOf_answers (text : String) (rate : Rate) :
    slotsOf (",\n".intercalate (calculate text rate).answers) =
      (slotsOf text).map (settled rate) := by
  rw [answers_calculate]
  apply slotsOf_intercalate
  rw [List.forall₂_map_left_iff, List.forall₂_map_right_iff, List.forall₂_same]
  intro slot _
  exact holdsSlot_answer rate slot

/-- The line end after the last answer makes no difference, and no answers are no text. -/
theorem slotsOf_listText (answers : List String) :
    slotsOf (Output.listText answers) = slotsOf (",\n".intercalate answers) := by
  rw [Output.listText]
  split
  · rename_i noAnswers
    rw [List.isEmpty_iff.mp noAnswers, String.intercalate_nil]
  · apply slotsOf_eq_of_strip_eq
    rw [String.toList_append, Text.strip_append]
    exact List.append_nil _

/--
Calculating the answers once more, joined as they are shown, gives the same
answers and as many complaints.
-/
theorem calculate_answers_again (text : String) (rate : Rate) :
    let answers := (calculate text rate).answers
    let again := calculate (",\n".intercalate answers) rate
    again.answers = answers ∧
      again.complaints.length = (calculate text rate).complaints.length ∧
      calculate (Output.listText answers) rate = again := by
  refine ⟨?_, ?_, ?_⟩
  · rw [answers_calculate, slotsOf_answers, List.map_map, answers_calculate]
    exact List.map_congr_left fun slot _ => answer_settled rate slot
  · rw [length_complaints_calculate, slotsOf_answers, List.countP_map,
      length_complaints_calculate]
    exact List.countP_congr fun slot _ => by simp [isSome_complaint?_settled]
  · exact calculate_eq_of_slotsOf_eq (slotsOf_listText _) rate

/-- The mark of a failure is an answer like the others. -/
example : (calculate "1h +, 2m" .milliseconds).answers = ["ERROR!", "02m00s"] ∧
    (calculate "ERROR!,\n02m00s" .milliseconds).answers = ["ERROR!", "02m00s"] := by
  decide +kernel

end DurationCalc
