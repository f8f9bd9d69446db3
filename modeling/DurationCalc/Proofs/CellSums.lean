import DurationCalc.Proofs.TextAddition
import Mathlib.Data.List.Perm.Basic

/-!
# Sums of cells

Blank cells take no part in a sum, and a blank cell is one that would be missing a
duration on its own. The other cells are read in order, row after row, and the first
one without a value decides the error. If all of them have a value the sum is exact,
so neither their order nor their rows matter. The sum of some of them can stand in
their place as one cell, because its text is read back as what it was made from.
-/

namespace DurationCalc

namespace Text

theorem trim_eq_nil_iff (characters : List Char) :
    trim characters = [] ↔ characters.all isBlank = true := by
  rw [trim, List.reverse_eq_nil_iff, trimStart, List.dropWhile_eq_nil_iff, List.all_eq_true]
  simp only [List.mem_reverse]
  constructor
  · intro restBlank character isThere
    rw [← List.takeWhile_append_dropWhile (p := isBlank) (l := characters)] at isThere
    rcases List.mem_append.mp isThere with atStart | later
    · exact List.mem_takeWhile_imp atStart
    · exact restBlank character later
  · intro allBlank character isThere
    exact allBlank character ((List.dropWhile_sublist isBlank).subset isThere)

end Text

namespace Cell

theorem bind_bind_eq_ok_iff {Result : Type} (first second : Except CellError Int)
    (combine : Int → Int → Except CellError Result) (result : Result) :
    (do let one ← first; let other ← second; combine one other) = .ok result ↔
      ∃ one other, first = .ok one ∧ second = .ok other ∧ combine one other = .ok result := by
  cases first with
  | error error => simp [bind, Except.bind]
  | ok one => cases second <;> simp [bind, Except.bind]

/-- Of two results in order the first one that fails decides the error. -/
theorem bind_bind_eq_error_iff {Result : Type} (first second : Except CellError Int)
    (combine : Int → Int → Except CellError Result) (error : CellError) :
    (do let one ← first; let other ← second; combine one other) = .error error ↔
      (first = .error error ∨ (∃ one, first = .ok one) ∧ second = .error error) ∨
        ∃ one other, first = .ok one ∧ second = .ok other ∧ combine one other = .error error := by
  cases first with
  | error error => simp [bind, Except.bind]
  | ok one => cases second <;> simp [bind, Except.bind]

/-- The cells that are not blank, in order. -/
def occupied (cells : List String) : List String :=
  cells.filter fun cell => !Text.isBlankText cell

theorem occupied_cons_of_blank {cell : String} (blank : Text.isBlankText cell = true)
    (later : List String) : occupied (cell :: later) = occupied later :=
  List.filter_cons_of_neg (by simp [blank])

theorem occupied_cons {cell : String} (written : Text.isBlankText cell = false)
    (later : List String) : occupied (cell :: later) = cell :: occupied later :=
  List.filter_cons_of_pos (by simp [written])

theorem mem_occupied_iff (cells : List String) (cell : String) :
    cell ∈ occupied cells ↔ cell ∈ cells ∧ Text.isBlankText cell = false := by
  simp [occupied]

/-- The cells have these values, one each. -/
def HaveValues (cells : List String) (amounts : List Int) : Prop :=
  List.Forall₂ (fun cell amount => millis cell = .ok amount) cells amounts

theorem exists_haveValues_iff (cells : List String) :
    (∃ amounts, HaveValues cells amounts) ↔ ∀ cell ∈ cells, ∃ amount, millis cell = .ok amount := by
  induction cells with
  | nil => exact ⟨fun _ => List.forall_mem_nil _, fun _ => ⟨[], .nil⟩⟩
  | cons cell later ih =>
      rw [List.forall_mem_cons, ← ih]
      constructor
      · rintro ⟨_, haveValues⟩
        cases haveValues with
        | cons ofCell ofLater => exact ⟨⟨_, ofCell⟩, _, ofLater⟩
      · rintro ⟨⟨amount, ofCell⟩, amounts, ofLater⟩
        exact ⟨amount :: amounts, .cons ofCell ofLater⟩

theorem sumMillis_cons_of_blank {cell : String} (blank : Text.isBlankText cell = true)
    (later : List String) : sumMillis (cell :: later) = sumMillis later := by
  rw [sumMillis, if_pos blank]

theorem sumMillis_cons_of_written {cell : String} (written : Text.isBlankText cell = false)
    (later : List String) :
    sumMillis (cell :: later) = (do
      let amount ← millis cell
      let rest ← sumMillis later
      .ok (amount + rest)) := by
  rw [sumMillis, written]
  rfl

theorem sumMillis_cons_eq_ok_iff {cell : String} (written : Text.isBlankText cell = false)
    (later : List String) (total : Int) :
    sumMillis (cell :: later) = .ok total ↔
      ∃ amount rest, millis cell = .ok amount ∧ sumMillis later = .ok rest ∧
        amount + rest = total := by
  rw [sumMillis_cons_of_written written, bind_bind_eq_ok_iff]
  simp only [Except.ok.injEq]

theorem sumMillis_cons_eq_error_iff {cell : String} (written : Text.isBlankText cell = false)
    (later : List String) (error : CellError) :
    sumMillis (cell :: later) = .error error ↔
      millis cell = .error error ∨
        (∃ amount, millis cell = .ok amount) ∧ sumMillis later = .error error := by
  rw [sumMillis_cons_of_written written, bind_bind_eq_error_iff]
  simp

theorem sumMillis_eq_ok_iff (cells : List String) (total : Int) :
    sumMillis cells = .ok total ↔
      ∃ amounts, HaveValues (occupied cells) amounts ∧ amounts.sum = total := by
  induction cells generalizing total with
  | nil =>
      constructor
      · rintro ⟨⟩
        exact ⟨[], .nil, rfl⟩
      · rintro ⟨amounts, haveValues, rfl⟩
        cases haveValues
        rfl
  | cons cell later ih =>
      cases blank : Text.isBlankText cell with
      | true => rw [sumMillis_cons_of_blank blank, occupied_cons_of_blank blank, ih]
      | false =>
          rw [sumMillis_cons_eq_ok_iff blank, occupied_cons blank]
          constructor
          · rintro ⟨amount, rest, ofCell, ofLater, rfl⟩
            obtain ⟨amounts, haveValues, rfl⟩ := (ih rest).mp ofLater
            exact ⟨amount :: amounts, .cons ofCell haveValues, List.sum_cons⟩
          · rintro ⟨_, haveValues, rfl⟩
            cases haveValues with
            | @cons _ amount _ amounts ofCell ofLater =>
                exact ⟨amount, amounts.sum, ofCell, (ih _).mpr ⟨amounts, ofLater, rfl⟩,
                  List.sum_cons.symm⟩

/-- The first cell without a value, none of the blank ones counted, has the error of the sum. -/
theorem sumMillis_eq_error_iff (cells : List String) (error : CellError) :
    sumMillis cells = .error error ↔
      ∃ before cell after, occupied cells = before ++ cell :: after ∧
        (∀ earlier ∈ before, ∃ amount, millis earlier = .ok amount) ∧
        millis cell = .error error := by
  induction cells with
  | nil =>
      constructor
      · rintro ⟨⟩
      · rintro ⟨before, cell, after, whole, -⟩
        simp [occupied] at whole
  | cons cell later ih =>
      cases blank : Text.isBlankText cell with
      | true => rw [sumMillis_cons_of_blank blank, occupied_cons_of_blank blank, ih]
      | false =>
          rw [sumMillis_cons_eq_error_iff blank, occupied_cons blank, ih]
          constructor
          · rintro (fails | ⟨hasValue, before, failing, after, whole, haveValues, fails⟩)
            · exact ⟨[], cell, _, rfl, List.forall_mem_nil _, fails⟩
            · refine ⟨cell :: before, failing, after, ?_, ?_, fails⟩
              · rw [whole, List.cons_append]
              · exact List.forall_mem_cons.mpr ⟨hasValue, haveValues⟩
          · rintro ⟨before, failing, after, whole, haveValues, fails⟩
            cases before with
            | nil =>
                obtain ⟨rfl, -⟩ := List.cons_eq_cons.mp whole
                exact .inl fails
            | cons earlier rest =>
                obtain ⟨rfl, isRest⟩ := List.cons_eq_cons.mp whole
                rw [List.forall_mem_cons] at haveValues
                exact .inr ⟨haveValues.1, rest, failing, after, isRest, haveValues.2, fails⟩

theorem HaveValues.perm {cells others : List String} {amounts : List Int}
    (haveValues : HaveValues cells amounts) (permuted : others.Perm cells) :
    ∃ reordered, HaveValues others reordered ∧ reordered.sum = amounts.sum := by
  obtain ⟨reordered, haveReordered, sameAmounts⟩ := List.perm_comp_forall₂ permuted haveValues
  exact ⟨reordered, haveReordered, sameAmounts.sum_eq⟩

theorem sumMillis_eq_ok_of_perm {cells others : List String} {total : Int}
    (permuted : (occupied others).Perm (occupied cells)) (summed : sumMillis cells = .ok total) :
    sumMillis others = .ok total := by
  obtain ⟨amounts, haveValues, rfl⟩ := (sumMillis_eq_ok_iff cells total).mp summed
  obtain ⟨reordered, haveReordered, sameSum⟩ := haveValues.perm permuted
  exact (sumMillis_eq_ok_iff others _).mpr ⟨reordered, haveReordered, sameSum⟩

theorem sumMillis_append_eq_ok_iff (first second : List String) (total : Int) :
    sumMillis (first ++ second) = .ok total ↔
      ∃ amount rest, sumMillis first = .ok amount ∧ sumMillis second = .ok rest ∧
        amount + rest = total := by
  induction first generalizing total with
  | nil => simp [sumMillis]
  | cons cell later ih =>
      cases blank : Text.isBlankText cell with
      | true =>
          rw [List.cons_append, sumMillis_cons_of_blank blank, sumMillis_cons_of_blank blank, ih]
      | false =>
          rw [List.cons_append]
          simp only [sumMillis_cons_eq_ok_iff blank, ih]
          constructor
          · rintro ⟨one, _, ofCell, ⟨other, rest, ofLater, ofSecond, rfl⟩, rfl⟩
            exact ⟨one + other, rest, ⟨one, other, ofCell, ofLater, rfl⟩, ofSecond,
              Int.add_assoc one other rest⟩
          · rintro ⟨_, rest, ⟨one, other, ofCell, ofLater, rfl⟩, ofSecond, rfl⟩
            exact ⟨one, other + rest, ofCell, ⟨other, rest, ofLater, ofSecond, rfl⟩,
              (Int.add_assoc one other rest).symm⟩

/-- The text of the sum of some cells is a cell that can stand in their place. -/
theorem exists_sumMillis_part {chosen rest : List String} {total : Int}
    (summed : sumMillis (chosen ++ rest) = .ok total) :
    ∃ amount, sumMillis chosen = .ok amount ∧
      sumMillis (durationText amount :: rest) = .ok total := by
  obtain ⟨amount, others, ofChosen, ofRest, rfl⟩ :=
    (sumMillis_append_eq_ok_iff chosen rest total).mp summed
  exact ⟨amount, ofChosen, sumMillis_cons (millis_durationText amount) ofRest⟩

theorem sum_eq_ok_iff (rows : List (List String)) (text : String) :
    sum rows = .ok text ↔
      ∃ total, sumMillis rows.flatten = .ok total ∧ durationText total = text := by
  rw [sum]
  cases sumMillis rows.flatten <;> simp [Except.map]

theorem sum_eq_ok_iff_haveValues (rows : List (List String)) (text : String) :
    sum rows = .ok text ↔
      ∃ amounts, HaveValues (occupied rows.flatten) amounts ∧ durationText amounts.sum = text := by
  simp only [sum_eq_ok_iff, sumMillis_eq_ok_iff]
  constructor
  · rintro ⟨_, ⟨amounts, haveValues, rfl⟩, isText⟩
    exact ⟨amounts, haveValues, isText⟩
  · rintro ⟨amounts, haveValues, isText⟩
    exact ⟨_, ⟨amounts, haveValues, rfl⟩, isText⟩

theorem sumMillis_of_haveValues {cells : List String} {amounts : List Int}
    (haveValues : HaveValues cells amounts) : sumMillis cells = .ok amounts.sum := by
  induction haveValues with
  | nil => rfl
  | cons ofCell _ ih => exact sumMillis_cons ofCell ih

theorem sum_row_of_haveValues {cells : List String} {amounts : List Int}
    (haveValues : HaveValues cells amounts) : sum [cells] = .ok (durationText amounts.sum) := by
  rw [sum_eq_ok_iff, List.flatten_singleton]
  exact ⟨amounts.sum, sumMillis_of_haveValues haveValues, rfl⟩

theorem sum_eq_error_iff (rows : List (List String)) (error : CellError) :
    sum rows = .error error ↔ sumMillis rows.flatten = .error error := by
  rw [sum]
  cases sumMillis rows.flatten <;> simp [Except.map]

theorem exists_sum_eq_ok_iff (rows : List (List String)) :
    (∃ text, sum rows = .ok text) ↔
      ∀ cell ∈ rows.flatten, Text.isBlankText cell = false → ∃ amount, millis cell = .ok amount := by
  have eachWritten := exists_haveValues_iff (occupied rows.flatten)
  simp only [mem_occupied_iff, and_imp] at eachWritten
  rw [← eachWritten]
  constructor
  · rintro ⟨text, isText⟩
    obtain ⟨amounts, haveValues, -⟩ := (sum_eq_ok_iff_haveValues rows text).mp isText
    exact ⟨amounts, haveValues⟩
  · rintro ⟨amounts, haveValues⟩
    exact ⟨_, (sum_eq_ok_iff_haveValues rows _).mpr ⟨amounts, haveValues, rfl⟩⟩

theorem sum_ne_missing (rows : List (List String)) : sum rows ≠ .error .missing := by
  intro isMissing
  rw [sum_eq_error_iff, sumMillis_eq_error_iff] at isMissing
  obtain ⟨before, cell, after, whole, -, fails⟩ := isMissing
  have isThere : cell ∈ occupied rows.flatten := by simp [whole]
  have written := ((mem_occupied_iff _ _).mp isThere).2
  rw [(isBlankText_iff_missing cell).mpr fails] at written
  cases written

theorem sum_eq_ok_of_perm {rows others : List (List String)} {text : String}
    (permuted : (occupied others.flatten).Perm (occupied rows.flatten))
    (isText : sum rows = .ok text) : sum others = .ok text := by
  obtain ⟨total, summed, rfl⟩ := (sum_eq_ok_iff rows text).mp isText
  exact (sum_eq_ok_iff others _).mpr ⟨total, sumMillis_eq_ok_of_perm permuted summed, rfl⟩

/--
A sum exists exactly when every cell that is not blank has a value, and it is the
text of the exact sum of these; otherwise it is the error of the first such cell
without a value, which is never that a duration is missing. Blank cells are those
that trimming leaves nothing of, and those that would be missing a duration. The
order of the cells, their rows and the blank ones among them make no difference to
a sum, and nor does it if some cells are summed beforehand and their text is put in
their place.
-/
theorem sum_over_multiset (rows : List (List String)) :
    ((∃ text, sum rows = .ok text) ↔
        ∀ cell ∈ rows.flatten, Text.isBlankText cell = false →
          ∃ amount, millis cell = .ok amount) ∧
      (∀ text, sum rows = .ok text ↔
        ∃ amounts, HaveValues (occupied rows.flatten) amounts ∧
          durationText amounts.sum = text) ∧
      (∀ error, sum rows = .error error ↔
        ∃ before cell after, occupied rows.flatten = before ++ cell :: after ∧
          (∀ earlier ∈ before, ∃ amount, millis earlier = .ok amount) ∧
          millis cell = .error error) ∧
      sum rows ≠ .error .missing ∧
      (∀ cell : String, (Text.isBlankText cell = true ↔ Text.trim cell.toList = []) ∧
        (Text.isBlankText cell = true ↔ millis cell = .error .missing)) ∧
      (∀ others text, (occupied others.flatten).Perm (occupied rows.flatten) →
        (sum others = .ok text ↔ sum rows = .ok text)) ∧
      ∀ (chosen : List (List String)) (rest : List String) (text : String),
        rows.flatten.Perm (chosen.flatten ++ rest) → sum rows = .ok text →
        ∃ part, sum chosen = .ok part ∧
          ∀ others : List (List String), others.flatten.Perm (part :: rest) →
            sum others = .ok text := by
  refine ⟨exists_sum_eq_ok_iff rows, sum_eq_ok_iff_haveValues rows, ?_, sum_ne_missing rows, ?_,
    ?_, ?_⟩
  · intro error
    rw [sum_eq_error_iff, sumMillis_eq_error_iff]
  · intro cell
    rw [Text.trim_eq_nil_iff]
    exact ⟨Iff.rfl, isBlankText_iff_missing cell⟩
  · intro others text permuted
    exact ⟨sum_eq_ok_of_perm permuted.symm, sum_eq_ok_of_perm permuted⟩
  · intro chosen rest text regrouped isText
    have ofParts : sum [chosen.flatten ++ rest] = .ok text := by
      refine sum_eq_ok_of_perm ?_ isText
      rw [List.flatten_singleton]
      exact (regrouped.filter _).symm
    obtain ⟨total, summed, rfl⟩ := (sum_eq_ok_iff _ _).mp ofParts
    rw [List.flatten_singleton] at summed
    obtain ⟨amount, ofChosen, replaced⟩ := exists_sumMillis_part summed
    refine ⟨durationText amount, (sum_eq_ok_iff _ _).mpr ⟨amount, ofChosen, rfl⟩, ?_⟩
    intro others rearranged
    exact (sum_eq_ok_iff others _).mpr
      ⟨total, sumMillis_eq_ok_of_perm (rearranged.filter _) replaced, rfl⟩

/-- A quarter of an hour less two hours makes a negative cell that the hour is added to. -/
theorem sum_over_multiset_with_negative_part :
    ((occupied [["-2h"], [], ["30m - 15m", "1h", "\u3000"]].flatten).Perm
        (occupied [["1h", ""], [" \t", "30m - 15m", "-2h"]].flatten) ∧
      (sum [["-2h"], [], ["30m - 15m", "1h", "\u3000"]] = .ok "-45m00s" ↔
        sum [["1h", ""], [" \t", "30m - 15m", "-2h"]] = .ok "-45m00s")) ∧
      [["1h", ""], [" \t", "30m - 15m", "-2h"]].flatten.Perm
        ([["30m - 15m"], ["-2h"]].flatten ++ ["1h", "", " \t"]) ∧
      sum [["1h", ""], [" \t", "30m - 15m", "-2h"]] = .ok "-45m00s" ∧
      ∃ part, sum [["30m - 15m"], ["-2h"]] = .ok part ∧
        sum [["1h", ""], [" \t", part]] = .ok "-45m00s" := by
  have permuted : (occupied [["-2h"], [], ["30m - 15m", "1h", "\u3000"]].flatten).Perm
      (occupied [["1h", ""], [" \t", "30m - 15m", "-2h"]].flatten) := by decide +kernel
  have regrouped : [["1h", ""], [" \t", "30m - 15m", "-2h"]].flatten.Perm
      ([["30m - 15m"], ["-2h"]].flatten ++ ["1h", "", " \t"]) := by decide +kernel
  have isText : sum [["1h", ""], [" \t", "30m - 15m", "-2h"]] = .ok "-45m00s" := by
    decide +kernel
  obtain ⟨-, -, -, -, -, reordered, nested⟩ :=
    sum_over_multiset [["1h", ""], [" \t", "30m - 15m", "-2h"]]
  obtain ⟨part, isPart, replaced⟩ := nested _ _ _ regrouped isText
  refine ⟨⟨permuted, reordered _ _ permuted⟩, regrouped, isText, part, isPart, ?_⟩
  exact replaced [["1h", ""], [" \t", part]] (List.perm_append_singleton part ["1h", "", " \t"])

end Cell

end DurationCalc
