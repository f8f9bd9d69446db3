import DurationCalc.Proofs.AnswerStability

/-!
# Answers and complaints stay in line with the slots

A report is made in one pass over the results, the complaints of the reader are
collected on their own, and a blank text is not read at all. All three agree.
The mark of a failure is never the text of a duration, because a duration is
read back from its text and nothing is read from the mark.
-/

namespace DurationCalc

open Expression (Slot Fault read messages hasFault)

theorem durationText_ne_failureMark (millis : Int) : durationText millis ≠ failureMark := by
  intro same
  have readBack := slotsOf_durationText millis
  rw [same, holdsSlot_failureMark.atEnd] at readBack
  cases readBack

theorem answer_value_eq_failureMark_iff (slot : Slot) (rate : Rate) :
    Report.answer (slot.value rate) = failureMark ↔ ∃ fault, slot = .error fault := by
  cases slot with
  | ok terms =>
      have written : Report.answer (Expression.Slot.value (.ok terms) rate) =
          durationText (total terms rate).millis := rfl
      rw [written]
      constructor
      · intro isMark
        exact absurd isMark (durationText_ne_failureMark _)
      · rintro ⟨fault, impossible⟩
        cases impossible
  | error fault => exact ⟨fun _ => ⟨fault, rfl⟩, fun _ => rfl⟩

theorem complaints_calculate (text : String) (rate : Rate) :
    (calculate text rate).complaints = messages (slotsOf text) := by
  rw [calculate_eq_ofValues, Report.ofValues, evaluate, values, List.filterMap_map, messages]
  apply List.filterMap_congr
  intro slot _
  cases slot <;> rfl

theorem hasFault_iff (slots : List Slot) :
    hasFault slots = true ↔ ∃ fault, .error fault ∈ slots := by
  rw [hasFault, List.any_eq_true]
  constructor
  · rintro ⟨slot, isThere, isFault⟩
    cases slot with
    | ok terms => cases isFault
    | error fault => exact ⟨fault, isThere⟩
  · rintro ⟨fault, isThere⟩
    exact ⟨.error fault, isThere, rfl⟩

theorem messages_eq_nil_iff (slots : List Slot) :
    messages slots = [] ↔ ∀ fault, .error fault ∉ slots := by
  rw [messages, List.filterMap_eq_nil_iff]
  constructor
  · intro noMessage fault isThere
    cases noMessage (.error fault) isThere
  · intro noFault slot isThere
    cases slot with
    | ok terms => rfl
    | error fault => exact absurd isThere (noFault fault)

theorem hasComplaints_calculate_iff (text : String) (rate : Rate) :
    (calculate text rate).hasComplaints = true ↔ ∃ fault, .error fault ∈ slotsOf text := by
  rw [Report.hasComplaints, complaints_calculate, Bool.not_eq_true', List.isEmpty_eq_false_iff,
    ne_eq, messages_eq_nil_iff]
  push Not
  rfl

theorem getElem?_answers_eq_failureMark_iff (text : String) (rate : Rate) (position : Nat) :
    (calculate text rate).answers[position]? = some failureMark ↔
      ∃ fault, (slotsOf text)[position]? = some (.error fault) := by
  rw [answers_calculate, List.getElem?_map, Option.map_eq_some_iff]
  constructor
  · rintro ⟨slot, isThere, isMark⟩
    obtain ⟨fault, rfl⟩ := (answer_value_eq_failureMark_iff slot rate).mp isMark
    exact ⟨fault, isThere⟩
  · rintro ⟨fault, isThere⟩
    exact ⟨.error fault, isThere, rfl⟩

theorem failureMark_mem_answers_iff (text : String) (rate : Rate) :
    failureMark ∈ (calculate text rate).answers ↔ ∃ fault, .error fault ∈ slotsOf text := by
  simp only [List.mem_iff_getElem?, getElem?_answers_eq_failureMark_iff]
  exact exists_comm

/--
The report of a text is that of its results, blank or not. It has an answer for
each slot, with the mark where the slot is a fault and nowhere else, and the
complaints of the slots at every rate; it complains exactly when some slot is a
fault, which is when some answer is the mark.
-/
theorem calculate_in_line_with_slots (text : String) (rate : Rate) :
    let slots := read (Lexeme.split text)
    let report := calculate text rate
    report = .ofValues (evaluate text rate) ∧
      report.answers.length = slots.length ∧
      (∀ position : Nat, report.answers[position]? = some failureMark ↔
        ∃ fault : Fault, slots[position]? = some (Except.error fault)) ∧
      (∀ span : Span, span.text ≠ failureMark) ∧
      report.complaints = messages slots ∧
      (report.hasComplaints = true ↔ hasFault slots = true) ∧
      (hasFault slots = true ↔ failureMark ∈ report.answers) := by
  refine ⟨calculate_eq_ofValues text rate, ?_, getElem?_answers_eq_failureMark_iff text rate, ?_,
    complaints_calculate text rate, ?_, ?_⟩
  · rw [answers_calculate, List.length_map]
    rfl
  · intro span
    exact durationText_ne_failureMark span.millis
  · exact (hasComplaints_calculate_iff text rate).trans (hasFault_iff _).symm
  · exact (hasFault_iff _).trans (failureMark_mem_answers_iff text rate).symm

end DurationCalc
