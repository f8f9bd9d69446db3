import DurationCalc.Proofs.LiveTyping
import DurationCalc.Proofs.LosslessSplit

/-!
# What can be wrong with a text

The reader is made for any list of lexemes, but those cut from a text never have two
words side by side. So after a number the next lexeme is a comma, a sign or a unit,
all of which may stand there, and one kind of fault never comes up. Every other fault
names a lexeme of the text, and the kind of fault tells what that lexeme looks like.
-/

namespace DurationCalc

namespace Expression

namespace Stage

/-- A slot that is completed on the way is completed at one of the lexemes. -/
theorem mem_completed_iff (stage : Stage) (lexemes : List String) (slot : Slot) :
    slot ∈ stage.completed lexemes ↔
      ∃ before lexeme after, lexemes = before ++ lexeme :: after ∧
        ((stage.advance before).step lexeme).1 = some slot := by
  constructor
  · intro isThere
    induction lexemes generalizing stage with
    | nil => cases isThere
    | cons lexeme later ih =>
        rw [completed_cons, List.mem_append] at isThere
        rcases isThere with atFirst | inLater
        · exact ⟨[], lexeme, later, rfl, Option.mem_toList.mp atFirst⟩
        · obtain ⟨before, other, after, rfl, yields⟩ := ih _ inLater
          exact ⟨lexeme :: before, other, after, rfl, yields⟩
  · rintro ⟨before, lexeme, after, rfl, yields⟩
    rw [completed_append, completed_cons, yields]
    simp

/-- A lexeme that is no comma is skipped, or continues the expression, or is rejected. -/
theorem step_cases (stage : Stage) {lexeme : String} (notComma : lexeme ≠ ",") :
    stage.step lexeme = (none, skipping) ∨ (∃ next, Moves stage lexeme next) ∨
      ∃ fault, Rejects stage lexeme fault := by
  by_cases skips : stage = skipping
  · rw [skips]
    exact .inl (step_skipping notComma)
  · exact .inr (moves_or_rejects skips notComma)

/-- A step raises a fault at a comma where a number is due, or at a lexeme that is rejected. -/
theorem fault_of_step {stage : Stage} {lexeme : String} {fault : Fault}
    (yields : (stage.step lexeme).1 = some (.error fault)) :
    fault = .operatorOutOfPlace "," ∨ Rejects stage lexeme fault := by
  by_cases isComma : lexeme = ","
  · subst isComma
    cases stage with
    | beforeNumber draft =>
        cases yields
        exact .inl rfl
    | afterNumber => cases yields
    | afterUnit => cases yields
    | skipping => cases yields
  · rcases step_cases stage isComma with skipped | ⟨next, moves⟩ | ⟨rejected, rejects⟩
    · rw [skipped] at yields
      cases yields
    · rw [moves.step_eq] at yields
      cases yields
    · rw [rejects.step_eq] at yields
      cases yields
      exact .inr rejects

theorem numeral?_of_step {stage : Stage} {lexeme : String} {draft : Draft} {whole number : Nat}
    (leads : (stage.step lexeme).2 = afterNumber draft whole number) :
    Text.numeral? lexeme.toList = some number := by
  by_cases isComma : lexeme = ","
  · rw [isComma, step_comma_snd] at leads
    cases leads
  · rcases step_cases stage isComma with skipped | ⟨next, moves⟩ | ⟨rejected, rejects⟩
    · rw [skipped] at leads
      cases leads
    · rw [moves.step_eq] at leads
      cases leads
      cases moves with
      | number _ isNumber => exact isNumber
    · rw [rejects.step_eq] at leads
      cases leads

/-- The reader stands behind a number only if that was the last lexeme. -/
theorem exists_numeral_of_advance {lexemes : List String} {draft : Draft} {whole number : Nat}
    (reached : start.advance lexemes = afterNumber draft whole number) :
    ∃ earlier numeral, lexemes = earlier ++ [numeral] ∧
      Text.numeral? numeral.toList = some number := by
  obtain rfl | ⟨earlier, numeral, rfl⟩ := lexemes.eq_nil_or_concat'
  · cases reached
  · rw [advance_append] at reached
    exact ⟨earlier, numeral, rfl, numeral?_of_step reached⟩

end Stage

open Stage

theorem exists_step_of_error_mem_read {lexemes : List String} {fault : Fault}
    (reported : .error fault ∈ read lexemes) :
    ∃ before lexeme after, lexemes = before ++ lexeme :: after ∧
      ((start.advance before).step lexeme).1 = some (.error fault) := by
  rw [read, List.mem_append] at reported
  rcases reported with onTheWay | atTheEnd
  · exact (mem_completed_iff start lexemes _).mp onTheWay
  · exact absurd (Option.mem_toList.mp atTheEnd) (finish_ne_error _ fault)

/-- A lexeme that is one delimiter is the comma, a sign or a unit. -/
theorem Token.of_isSingle {lexeme : String} (isSingle : Lexeme.IsSingle lexeme.toList) :
    lexeme = "," ∨ (∃ sign, Sign.ofLexeme? lexeme = some sign) ∨
      ∃ unit, TimeUnit.ofToken? lexeme = some unit := by
  obtain ⟨character, delimiter, characters⟩ := isSingle
  have alone : lexeme = String.singleton character := by
    rw [← String.toList_inj, characters, String.toList_singleton]
  have classified := Lexeme.holds_of_isDelimiter
    (fun one => String.singleton one == "," || (Sign.ofLexeme? (String.singleton one)).isSome ||
      (TimeUnit.ofToken? (String.singleton one)).isSome) rfl delimiter
  rw [← alone] at classified
  simpa [Option.isSome_iff_exists, or_assoc] using classified

end Expression

open Expression (Fault Sign read)

namespace Lexeme

theorem isSplit_split (text : String) : IsSplit text.toList ((split text).map String.toList) :=
  (isSplit_iff_eq_pieces _ _).mpr (map_toList_split text)

theorem mem_text_of_mem_split {text lexeme : String} (isThere : lexeme ∈ split text)
    {character : Char} (inside : character ∈ lexeme.toList) :
    character ∈ text.toList ∧ Text.isBlank character = false := by
  have kept : character ∈ Text.strip text.toList := by
    rw [← flatten_split]
    exact List.mem_flatten_of_mem (List.mem_map_of_mem isThere) inside
  simpa [Text.strip] using kept

/-- A lexeme that is no comma, sign or unit is a text without delimiters. -/
theorem isRun_of_mem_split {text lexeme : String} (isThere : lexeme ∈ split text)
    (notComma : lexeme ≠ ",") (noSign : Sign.ofLexeme? lexeme = none)
    (noUnit : TimeUnit.ofToken? lexeme = none) : IsRun lexeme.toList := by
  rcases (isSplit_split text).single_or_run _ (List.mem_map_of_mem isThere) with isSingle | isRun
  · rcases Expression.Token.of_isSingle isSingle with isComma | ⟨sign, isSign⟩ | ⟨unit, isUnit⟩
    · exact absurd isComma notComma
    · rw [noSign] at isSign
      cases isSign
    · rw [noUnit] at isUnit
      cases isUnit
  · exact isRun

/-- No text without delimiters follows a numeral. -/
theorem not_isRun_after_numeral {text numeral lexeme : String} {before after : List String}
    {number : Nat} (whole : split text = before ++ numeral :: lexeme :: after)
    (isNumber : Text.numeral? numeral.toList = some number) : ¬IsRun lexeme.toList := by
  intro isRun
  have runIsNotSingle {piece : List Char} (isRun : IsRun piece) : ¬IsSingle piece := by
    rintro ⟨character, delimiter, rfl⟩
    rw [isRun.2 character List.mem_cons_self] at delimiter
    cases delimiter
  have numeralIsRun : IsRun numeral.toList :=
    isRun_of_isNumeral ((Text.numeral?_eq_some_iff _ _).mp isNumber).1
  have cut : (split text).map String.toList = before.map String.toList ++
      numeral.toList :: lexeme.toList :: after.map String.toList := by
    rw [whole, List.map_append, List.map_cons, List.map_cons]
  rcases (isSplit_split text).neighbours _ _ _ _ cut with numeralSingle | single
  · exact runIsNotSingle numeralIsRun numeralSingle
  · exact runIsNotSingle isRun single

end Lexeme

open Expression.Stage

/-- A fault in a text is one at a comma, or a lexeme of the text was rejected. -/
theorem exists_rejects_of_error_mem_slotsOf {text : String} {fault : Fault}
    (reported : .error fault ∈ slotsOf text) :
    fault = .operatorOutOfPlace "," ∨
      ∃ before lexeme after stage, Lexeme.split text = before ++ lexeme :: after ∧
        lexeme ∈ Lexeme.split text ∧ start.advance before = stage ∧
        Rejects stage lexeme fault := by
  obtain ⟨before, lexeme, after, whole, yields⟩ :=
    Expression.exists_step_of_error_mem_read reported
  rcases fault_of_step yields with atComma | rejects
  · exact .inl atComma
  · refine .inr ⟨before, lexeme, after, _, whole, ?_, rfl, rejects⟩
    rw [whole]
    exact List.mem_append_right _ List.mem_cons_self

theorem not_misplaced_unitOrDelimiter (text lexeme : String) :
    .error (.misplaced lexeme .unitOrDelimiter) ∉ slotsOf text := by
  intro reported
  rcases exists_rejects_of_error_mem_slotsOf reported with
    atComma | ⟨before, culprit, after, stage, whole, isThere, reached, rejects⟩
  · cases atComma
  cases rejects with
  | afterNumber notComma noSign noUnit =>
      obtain ⟨earlier, numeral, rfl, isNumber⟩ := exists_numeral_of_advance reached
      rw [List.append_assoc, List.singleton_append] at whole
      exact Lexeme.not_isRun_after_numeral whole isNumber
        (Lexeme.isRun_of_mem_split isThere notComma noSign noUnit)

theorem exists_letter_of_ofToken? {token : String} {unit : TimeUnit}
    (isUnit : TimeUnit.ofToken? token = some unit) :
    ∃ letter ∈ ['D', 'd', 'H', 'h', 'M', 'm', 'S', 's'], token = String.singleton letter := by
  rcases TimeUnit.eq_letter_of_ofToken? isUnit with isLower | isUpper
  · exact ⟨unit.letter, by cases unit <;> decide, isLower⟩
  · exact ⟨unit.letter.toUpper, by cases unit <;> decide, isUpper⟩

theorem misplaced_shape {text lexeme : String} {expected : Expression.Expected}
    (reported : .error (.misplaced lexeme expected) ∈ slotsOf text) :
    ∃ letter ∈ text.toList, letter ∈ ['D', 'd', 'H', 'h', 'M', 'm', 'S', 's'] ∧
      lexeme = String.singleton letter := by
  rcases exists_rejects_of_error_mem_slotsOf reported with
    atComma | ⟨before, culprit, after, stage, -, isThere, -, rejects⟩
  · cases atComma
  have quoted {unit : TimeUnit} (isUnit : TimeUnit.ofToken? culprit = some unit) :
      ∃ letter ∈ text.toList, letter ∈ ['D', 'd', 'H', 'h', 'M', 'm', 'S', 's'] ∧
        culprit = String.singleton letter := by
    obtain ⟨letter, isLetter, rfl⟩ := exists_letter_of_ofToken? isUnit
    have inside : letter ∈ (String.singleton letter).toList := by simp
    exact ⟨letter, (Lexeme.mem_text_of_mem_split isThere inside).1, isLetter, rfl⟩
  cases rejects with
  | unitFirst isUnit => exact quoted isUnit
  | secondUnit isUnit => exact quoted isUnit
  | afterNumber => exact absurd reported (not_misplaced_unitOrDelimiter text lexeme)

theorem notANumber_shape {text lexeme : String}
    (reported : .error (.notANumber lexeme) ∈ slotsOf text) :
    lexeme ∈ Lexeme.split text ∧ lexeme ≠ "" ∧
      (∀ character ∈ lexeme.toList,
        Text.isBlank character = false ∧ Lexeme.isDelimiter character = false) ∧
      ∃ character ∈ lexeme.toList, character.isDigit = false := by
  rcases exists_rejects_of_error_mem_slotsOf reported with
    atComma | ⟨before, culprit, after, stage, -, isThere, -, rejects⟩
  · cases atComma
  cases rejects with
  | stray _ notComma noSign noUnit noNumber =>
      obtain ⟨nonempty, noDelimiter⟩ := Lexeme.isRun_of_mem_split isThere notComma noSign noUnit
      refine ⟨isThere, ?_, ?_, ?_⟩
      · rintro rfl
        exact nonempty rfl
      · intro character inside
        exact ⟨(Lexeme.mem_text_of_mem_split isThere inside).2, noDelimiter character inside⟩
      · -- Digits alone would be a numeral.
        by_contra allDigits
        have isNumeral : Text.isNumeral lexeme.toList = true := by
          rw [Text.isNumeral_iff]
          simp only [not_exists, not_and, Bool.not_eq_false] at allDigits
          exact ⟨nonempty, allDigits⟩
        rw [Text.numeral?, if_pos isNumeral] at noNumber
        cases noNumber

theorem operatorOutOfPlace_shape {text lexeme : String}
    (reported : .error (.operatorOutOfPlace lexeme) ∈ slotsOf text) :
    lexeme = "+" ∨ lexeme = "-" ∨ lexeme = "," := by
  rcases exists_rejects_of_error_mem_slotsOf reported with
    atComma | ⟨before, culprit, after, stage, -, -, -, rejects⟩
  · cases atComma
    exact .inr (.inr rfl)
  cases rejects with
  | sign isSign =>
      rcases Sign.eq_of_ofLexeme? isSign with isPlus | isMinus
      · exact .inl isPlus
      · exact .inr (.inl isMinus)

/--
A fault in a text never asks for a unit or a delimiter. One that asks for something
else quotes a single unit letter as it stands in the text, one that misses a number
quotes a lexeme that is not empty, holds neither blanks nor delimiters and is not all
digits, and one about an operator quotes a sign or a comma.
-/
theorem faults_in_free_text (text : String) :
    (∀ lexeme, .error (.misplaced lexeme .unitOrDelimiter) ∉ slotsOf text) ∧
      (∀ lexeme expected, .error (.misplaced lexeme expected) ∈ slotsOf text →
        ∃ letter ∈ text.toList, letter ∈ ['D', 'd', 'H', 'h', 'M', 'm', 'S', 's'] ∧
          lexeme = String.singleton letter) ∧
      (∀ lexeme, .error (.notANumber lexeme) ∈ slotsOf text →
        lexeme ∈ Lexeme.split text ∧ lexeme ≠ "" ∧
          (∀ character ∈ lexeme.toList,
            Text.isBlank character = false ∧ Lexeme.isDelimiter character = false) ∧
          ∃ character ∈ lexeme.toList, character.isDigit = false) ∧
      ∀ lexeme, .error (.operatorOutOfPlace lexeme) ∈ slotsOf text →
        lexeme = "+" ∨ lexeme = "-" ∨ lexeme = "," := by
  refine ⟨not_misplaced_unitOrDelimiter text, ?_, ?_, ?_⟩
  · intro lexeme expected reported
    exact misplaced_shape reported
  · intro lexeme reported
    exact notANumber_shape reported
  · intro lexeme reported
    exact operatorOutOfPlace_shape reported

/-- Four bad expressions: two units in a row, a word with other digits, a second sign and none at all. -/
theorem faults_in_free_text_of_each_kind :
    .error (.misplaced "M" .delimiterOrNumber) ∈ slotsOf "1 hM, ٣ ½5x, 2s+-1,," ∧
      .error (.notANumber "٣½5x") ∈ slotsOf "1 hM, ٣ ½5x, 2s+-1,," ∧
      .error (.operatorOutOfPlace "-") ∈ slotsOf "1 hM, ٣ ½5x, 2s+-1,," ∧
      .error (.operatorOutOfPlace ",") ∈ slotsOf "1 hM, ٣ ½5x, 2s+-1,," ∧
      (∃ letter ∈ "1 hM, ٣ ½5x, 2s+-1,,".toList,
        letter ∈ ['D', 'd', 'H', 'h', 'M', 'm', 'S', 's'] ∧ "M" = String.singleton letter) ∧
      "٣½5x" ∈ Lexeme.split "1 hM, ٣ ½5x, 2s+-1,," ∧
      ("-" = "+" ∨ "-" = "-" ∨ "-" = ",") := by
  have slots : slotsOf "1 hM, ٣ ½5x, 2s+-1,," =
      [.error (.misplaced "M" .delimiterOrNumber), .error (.notANumber "٣½5x"),
        .error (.operatorOutOfPlace "-"), .error (.operatorOutOfPlace ",")] := by
    decide +kernel
  have faults := faults_in_free_text "1 hM, ٣ ½5x, 2s+-1,,"
  rw [slots] at faults ⊢
  refine ⟨by simp, by simp, by simp, by simp, faults.2.1 "M" .delimiterOrNumber (by simp),
    (faults.2.2.1 "٣½5x" (by simp)).1, faults.2.2.2 "-" (by simp)⟩

end DurationCalc
