import DurationCalc.Cell
import DurationCalc.Proofs.GrammarRecognition
import DurationCalc.Proofs.LosslessSplit
import DurationCalc.Proofs.TotalDrift

/-!
# What a cell can turn out to be

How many expressions a cell holds can be told from its commas and from whether
anything follows the last one. A cell with none is blank, and one with several is
refused before any of them is looked at. A single expression may stand as at the end
of a text, where a last sign lacks its term, or have one comma after it, where it
must be complete. Its value is the exact sum of its terms, and otherwise the cell has
the fault of its only slot.
-/

namespace DurationCalc

open Expression (SpellsAlone Fault Slot afterLastComma)

theorem rtakeWhile_ne_eq_nil_iff {α : Type} [DecidableEq α] (separator : α) (items : List α) :
    items.rtakeWhile (· ≠ separator) = [] ↔
      items = [] ∨ ∃ earlier, items = earlier ++ [separator] := by
  obtain rfl | ⟨earlier, last, rfl⟩ := items.eq_nil_or_concat
  · simp
  · by_cases isSeparator : last = separator
    · simp [isSeparator]
    · simp [isSeparator]

namespace Expression

theorem afterLastComma_eq_nil_iff (lexemes : List String) :
    afterLastComma lexemes = [] ↔ lexemes = [] ∨ ∃ earlier, lexemes = earlier ++ [","] :=
  rtakeWhile_ne_eq_nil_iff "," lexemes

/-- If there is a comma and only one slot, the comma is the last lexeme and the only comma. -/
theorem exists_commaFree_of_length_read {lexemes : List String} (holdsComma : "," ∈ lexemes)
    (oneSlot : (read lexemes).length = 1) :
    ∃ earlier, lexemes = earlier ++ [","] ∧ "," ∉ earlier := by
  have someComma : 0 < lexemes.count "," := List.count_pos_iff.mpr holdsComma
  rw [length_read] at oneSlot
  -- The comma makes the one slot, so there is none for what follows it.
  have nothingLeft : afterLastComma lexemes = [] := by
    by_contra somethingLeft
    rw [if_neg somethingLeft] at oneSlot
    omega
  rw [if_pos nothingLeft] at oneSlot
  rcases (afterLastComma_eq_nil_iff lexemes).mp nothingLeft with rfl | ⟨earlier, rfl⟩
  · cases holdsComma
  · refine ⟨earlier, rfl, List.count_eq_zero.mp ?_⟩
    rw [List.count_append, List.count_singleton_self] at oneSlot
    omega

/-- With a comma or without, a single expression is found exactly where one is spelled alone. -/
theorem read_eq_single_ok_iff (lexemes : List String) (values : List Int) :
    read lexemes = [.ok values] ↔ SpellsAlone lexemes values := by
  constructor
  · intro only
    by_cases holdsComma : "," ∈ lexemes
    · have oneSlot : (read lexemes).length = 1 := by rw [only, List.length_singleton]
      obtain ⟨earlier, rfl, commaFree⟩ := exists_commaFree_of_length_read holdsComma oneSlot
      exact .beforeComma ((read_append_comma_eq_ok_iff commaFree values).mp only)
    · exact .atEnd ((read_eq_ok_iff holdsComma values).mp only)
  · intro alone
    cases alone with
    | atEnd spellsAtEnd => exact spellsAtEnd.read_eq
    | beforeComma spells => exact (read_append_comma_eq_ok_iff spells.commaFree values).mpr spells

end Expression

/--
How many expressions a text holds: one for each comma, and one for what follows the
last comma, or is there without any, if that is not only blanks.
-/
def expressionCount (text : String) : Nat :=
  let visible := Text.strip text.toList
  visible.count ',' + if visible.rtakeWhile (· ≠ ',') = [] then 0 else 1

theorem eq_comma_of_mem_split {text lexeme : String} (isThere : lexeme ∈ Lexeme.split text)
    (holdsComma : ',' ∈ lexeme.toList) : lexeme = "," := by
  have inPieces : lexeme.toList ∈ Lexeme.pieces (Text.strip text.toList) := by
    rw [← Lexeme.map_toList_split]
    exact List.mem_map_of_mem isThere
  rcases (Lexeme.isCut_pieces _).single_or_run _ inPieces with ⟨character, _, single⟩ | isRun
  · rw [single, List.mem_singleton] at holdsComma
    apply String.toList_inj.mp
    rw [single, ← holdsComma]
    rfl
  · have noDelimiter := isRun.2 ',' holdsComma
    cases noDelimiter

theorem count_comma_flatten {lexemes : List String}
    (onlyCommas : ∀ lexeme ∈ lexemes, ',' ∈ lexeme.toList → lexeme = ",") :
    (lexemes.map String.toList).flatten.count ',' = lexemes.count "," := by
  induction lexemes with
  | nil => rfl
  | cons lexeme later ih =>
      rw [List.forall_mem_cons] at onlyCommas
      rw [List.map_cons, List.flatten_cons, List.count_append, ih onlyCommas.2, List.count_cons]
      by_cases isComma : lexeme = ","
      · subst isComma
        exact Nat.add_comm 1 _
      · have commaFree : ',' ∉ lexeme.toList := fun isThere => isComma (onlyCommas.1 isThere)
        rw [List.count_eq_zero.mpr commaFree]
        simp [isComma]

theorem count_comma_split (text : String) :
    (Lexeme.split text).count "," = (Text.strip text.toList).count ',' := by
  rw [← Lexeme.flatten_split]
  exact (count_comma_flatten fun _ => eq_comma_of_mem_split).symm

/-- No lexeme follows the last comma exactly when no character but blanks does. -/
theorem afterLastComma_split_eq_nil_iff (text : String) :
    afterLastComma (Lexeme.split text) = [] ↔
      (Text.strip text.toList).rtakeWhile (· ≠ ',') = [] := by
  rw [Expression.afterLastComma_eq_nil_iff, rtakeWhile_ne_eq_nil_iff]
  have flattened := Lexeme.flatten_split text
  constructor
  · rintro (noLexeme | ⟨earlier, whole⟩)
    · rw [noLexeme] at flattened
      exact .inl flattened.symm
    · rw [whole, List.map_append, List.flatten_append] at flattened
      exact .inr ⟨_, flattened.symm⟩
  · have isOne : Lexeme.isDelimiter ',' = true := rfl
    rintro (nothing | ⟨earlier, whole⟩)
    · exact .inl (by rw [Lexeme.split, nothing]; rfl)
    · refine .inr ⟨(Lexeme.pieces earlier).map String.ofList, ?_⟩
      rw [Lexeme.split, whole, Lexeme.pieces_append_delimiter isOne, List.map_append]
      rfl

theorem length_slotsOf (text : String) : (slotsOf text).length = expressionCount text := by
  rw [slotsOf, Expression.length_read, count_comma_split, expressionCount]
  simp only [afterLastComma_split_eq_nil_iff]

theorem expressionCount_eq_zero_iff (text : String) :
    expressionCount text = 0 ↔ Text.isBlankText text = true := by
  rw [Text.isBlankText, ← Text.strip_eq_nil_iff, expressionCount]
  constructor
  · intro holdsNone
    have nothingLeft : (Text.strip text.toList).rtakeWhile (· ≠ ',') = [] := by
      by_contra somethingLeft
      rw [if_neg somethingLeft] at holdsNone
      omega
    rcases (rtakeWhile_ne_eq_nil_iff ',' _).mp nothingLeft with nothing | ⟨earlier, whole⟩
    · exact nothing
    · rw [whole] at holdsNone
      simp at holdsNone
  · intro nothing
    rw [nothing]
    rfl

theorem slotsOf_eq_nil_iff (text : String) :
    slotsOf text = [] ↔ Text.isBlankText text = true := by
  rw [← List.length_eq_zero_iff, length_slotsOf, expressionCount_eq_zero_iff]

theorem slotsOf_eq_single_ok_iff (text : String) (values : List Int) :
    slotsOf text = [.ok values] ↔ SpellsAlone (Lexeme.split text) values :=
  Expression.read_eq_single_ok_iff (Lexeme.split text) values

namespace Cell

/-- What a cell with these slots comes to. -/
inductive Outcome (cell : String) : List Slot → Except CellError Int → Prop where
  | missing : Outcome cell [] (.error .missing)
  | value {values : List Int} : Outcome cell [.ok values] (.ok values.sum)
  | faulty {fault : Fault} : Outcome cell [.error fault] (.error (.faulty fault))
  | crowded {first second : Slot} {later : List Slot} :
      Outcome cell (first :: second :: later)
        (.error (.crowded cell (first :: second :: later).length))

theorem outcome_millis (cell : String) : Outcome cell (slotsOf cell) (millis cell) := by
  rw [millis]
  cases slotsOf cell with
  | nil => exact .missing
  | cons first later =>
      cases later with
      | nil =>
          cases first with
          | error fault => exact .faulty
          | ok values =>
              have valued : Outcome cell [.ok values] (.ok (total values .milliseconds).count) := by
                rw [total_milliseconds]
                exact .value
              exact valued
      | cons second rest => cases first <;> exact .crowded

theorem millis_eq_missing_iff (cell : String) :
    millis cell = .error .missing ↔ slotsOf cell = [] := by
  have outcome := outcome_millis cell
  generalize slotsOf cell = slots, millis cell = result at outcome ⊢
  cases outcome <;> simp

theorem isBlankText_iff_missing (cell : String) :
    Text.isBlankText cell = true ↔ millis cell = .error .missing := by
  rw [millis_eq_missing_iff, slotsOf_eq_nil_iff]

theorem millis_eq_ok_iff (cell : String) (amount : Int) :
    millis cell = .ok amount ↔ ∃ values, slotsOf cell = [.ok values] ∧ values.sum = amount := by
  have outcome := outcome_millis cell
  generalize slotsOf cell = slots, millis cell = result at outcome ⊢
  cases outcome <;> simp

theorem millis_eq_ok_iff_spellsAlone (cell : String) (amount : Int) :
    millis cell = .ok amount ↔
      ∃ values, SpellsAlone (Lexeme.split cell) values ∧ values.sum = amount := by
  simp only [millis_eq_ok_iff, slotsOf_eq_single_ok_iff]

theorem millis_eq_faulty_iff (cell : String) (fault : Fault) :
    millis cell = .error (.faulty fault) ↔ slotsOf cell = [.error fault] := by
  have outcome := outcome_millis cell
  generalize slotsOf cell = slots, millis cell = result at outcome ⊢
  cases outcome <;> simp

theorem millis_eq_crowded_iff (cell held : String) (count : Nat) :
    millis cell = .error (.crowded held count) ↔
      held = cell ∧ count = (slotsOf cell).length ∧ 2 ≤ count := by
  have outcome := outcome_millis cell
  generalize slotsOf cell = slots, millis cell = result at outcome ⊢
  cases outcome <;> grind

theorem millis_ne_zeroDivisor (cell : String) : millis cell ≠ .error .zeroDivisor := by
  have outcome := outcome_millis cell
  generalize slotsOf cell = slots, millis cell = result at outcome ⊢
  cases outcome <;> simp

/-- A single expression that is not spelled properly leaves a fault. -/
theorem exists_millis_eq_faulty_iff (cell : String) :
    (∃ fault, millis cell = .error (.faulty fault)) ↔
      (slotsOf cell).length = 1 ∧ ¬∃ values, slotsOf cell = [.ok values] := by
  have outcome := outcome_millis cell
  generalize slotsOf cell = slots, millis cell = result at outcome ⊢
  cases outcome <;> simp

/--
A cell is missing a duration if it holds no expression, which is to say that it is
blank, and crowded with as many as there are if it holds several, whether they are
proper or not. It has the exact sum of its terms where one expression is spelled
alone, and the fault of its slot where there is one expression that is not.
-/
theorem millis_classifies (cell : String) :
    (millis cell = .error .missing ↔ expressionCount cell = 0) ∧
      (expressionCount cell = 0 ↔ Text.isBlankText cell = true) ∧
      (∀ (held : String) (count : Nat), millis cell = .error (.crowded held count) ↔
        held = cell ∧ count = expressionCount cell ∧ 2 ≤ count) ∧
      (∀ amount : Int, millis cell = .ok amount ↔
        ∃ values, SpellsAlone (Lexeme.split cell) values ∧ values.sum = amount) ∧
      (∀ fault : Fault, millis cell = .error (.faulty fault) ↔ slotsOf cell = [.error fault]) ∧
      ((∃ fault, millis cell = .error (.faulty fault)) ↔
        expressionCount cell = 1 ∧
          ¬∃ values, SpellsAlone (Lexeme.split cell) values) ∧
      millis cell ≠ .error .zeroDivisor := by
  refine ⟨?_, expressionCount_eq_zero_iff cell, ?_, millis_eq_ok_iff_spellsAlone cell,
    millis_eq_faulty_iff cell, ?_, millis_ne_zeroDivisor cell⟩
  · rw [← isBlankText_iff_missing, expressionCount_eq_zero_iff]
  · intro held count
    rw [millis_eq_crowded_iff, length_slotsOf]
  · rw [exists_millis_eq_faulty_iff, length_slotsOf]
    simp only [slotsOf_eq_single_ok_iff]

/-- Two expressions crowd a cell even if both are faulty, and a last comma adds none. -/
example : millis "1h +, x" = .error (.crowded "1h +, x" 2) ∧ millis "5-5," = .ok 0 ∧
    millis "1h +," = .error (.faulty (.operatorOutOfPlace ",")) := by decide +kernel

end Cell

end DurationCalc
