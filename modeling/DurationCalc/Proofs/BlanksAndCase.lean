import DurationCalc.Calculation
import Mathlib.Data.List.Forall2

/-!
# Blanks and the case of unit letters

Two texts that are equal without their blanks have the same lexemes, so all that
is made of them is equal. Where they differ in the case of unit letters as well,
their lexemes differ in that only. No lexeme changes its class by it, and the
reader looks at nothing else of a lexeme, except that a fault quotes it as it was
written.
-/

namespace DurationCalc

namespace Lexeme

/-- The four unit letters in lower case; every other character stays. -/
def lowerUnit : Char → Char
  | 'D' => 'd'
  | 'H' => 'h'
  | 'M' => 'm'
  | 'S' => 's'
  | other => other

/-- A lexeme with its unit letters in lower case. -/
def lowered (lexeme : String) : String :=
  String.ofList (lexeme.toList.map lowerUnit)

theorem isDelimiter_lowerUnit (character : Char) :
    isDelimiter (lowerUnit character) = isDelimiter character := by
  unfold lowerUnit
  split <;> rfl

theorem isDigit_lowerUnit (character : Char) :
    (lowerUnit character).isDigit = character.isDigit := by
  unfold lowerUnit
  split <;> rfl

theorem lowerUnit_of_isDigit {character : Char} (digit : character.isDigit = true) :
    lowerUnit character = character := by
  unfold lowerUnit
  split
  case h_5 => rfl
  all_goals cases digit

theorem isClosed_map_lowerUnit (piece : List Char) :
    isClosed (piece.map lowerUnit) = isClosed piece := by
  cases piece with
  | nil => rfl
  | cons first rest => exact isDelimiter_lowerUnit first

theorem attach_lowerUnit (character : Char) (later : List (List Char)) :
    attach (lowerUnit character) (later.map (List.map lowerUnit)) =
      (attach character later).map (List.map lowerUnit) := by
  cases later with
  | nil => rfl
  | cons piece later =>
      simp only [List.map_cons, attach, isDelimiter_lowerUnit, isClosed_map_lowerUnit]
      split <;> rfl

/-- A text is cut at the same places when its unit letters change their case. -/
theorem pieces_map_lowerUnit (characters : List Char) :
    pieces (characters.map lowerUnit) = (pieces characters).map (List.map lowerUnit) := by
  induction characters with
  | nil => rfl
  | cons character rest ih => rw [List.map_cons, pieces, ih, attach_lowerUnit, pieces]

theorem map_lowered_split (text : String) :
    (split text).map lowered =
      (pieces ((Text.strip text.toList).map lowerUnit)).map String.ofList := by
  rw [pieces_map_lowerUnit, split, List.map_map, List.map_map]
  apply List.map_congr_left
  intro piece _
  simp [lowered]

theorem lowered_singleton (character : Char) :
    lowered (String.singleton character) = String.singleton (lowerUnit character) := by
  rw [lowered, String.toList_singleton, List.map_singleton, String.singleton_eq_ofList]

theorem eq_singleton_of_lowered_eq_singleton {lexeme : String} {character : Char}
    (isOne : lowered lexeme = String.singleton character) :
    ∃ other, lexeme = String.singleton other := by
  have characters := congrArg String.toList isOne
  rw [lowered, String.toList_ofList, String.toList_singleton, List.map_eq_singleton_iff]
    at characters
  obtain ⟨other, onlyOther, -⟩ := characters
  exact ⟨other, by rw [← String.toList_inj, onlyOther, String.toList_singleton]⟩

end Lexeme

theorem Text.numeral?_map_lowerUnit (characters : List Char) :
    Text.numeral? (characters.map Lexeme.lowerUnit) = Text.numeral? characters := by
  have sameDigits : (characters.map Lexeme.lowerUnit).all Char.isDigit =
      characters.all Char.isDigit := by
    rw [List.all_map]
    exact congrArg characters.all (funext Lexeme.isDigit_lowerUnit)
  have sameKind : Text.isNumeral (characters.map Lexeme.lowerUnit) = Text.isNumeral characters := by
    rw [Text.isNumeral, sameDigits, List.isEmpty_map, Text.isNumeral]
  rw [Text.numeral?, sameKind, Text.numeral?]
  split
  · rename_i isNumeral
    have unchanged : ∀ character ∈ characters, Lexeme.lowerUnit character = character := by
      rw [Text.isNumeral_iff] at isNumeral
      intro character isThere
      exact Lexeme.lowerUnit_of_isDigit (isNumeral.2 character isThere)
    rw [List.map_congr_left unchanged, List.map_id']
  · rfl

namespace Expression

open Lexeme (lowered)

namespace Token

theorem ofLexeme_singleton_lowerUnit (character : Char) :
    ofLexeme (String.singleton (Lexeme.lowerUnit character)) =
      ofLexeme (String.singleton character) := by
  unfold Lexeme.lowerUnit
  split <;> rfl

/-- Commas, signs and units are single characters, so a longer lexeme is a number or stray. -/
theorem ofLexeme_of_ne_singleton {lexeme : String}
    (longer : ∀ character, lexeme ≠ String.singleton character) :
    ofLexeme lexeme = (Text.numeral? lexeme.toList).elim .stray .number := by
  apply ofLexeme_of_remaining
  · exact longer ','
  · cases isSign : Sign.ofLexeme? lexeme with
    | none => rfl
    | some sign =>
        rcases Sign.eq_of_ofLexeme? isSign with isPlus | isMinus
        · exact absurd isPlus (longer '+')
        · exact absurd isMinus (longer '-')
  · cases isUnit : TimeUnit.ofToken? lexeme with
    | none => rfl
    | some unit =>
        rcases TimeUnit.eq_letter_of_ofToken? isUnit with isLower | isUpper
        · exact absurd isLower (longer unit.letter)
        · exact absurd isUpper (longer unit.letter.toUpper)

/-- The case of unit letters makes no difference to the class of a lexeme. -/
theorem ofLexeme_lowered (lexeme : String) : ofLexeme (lowered lexeme) = ofLexeme lexeme := by
  by_cases isOne : ∃ character, lexeme = String.singleton character
  · obtain ⟨character, rfl⟩ := isOne
    rw [Lexeme.lowered_singleton, ofLexeme_singleton_lowerUnit]
  · have loweredLonger : ∀ character, lowered lexeme ≠ String.singleton character :=
      fun character isSingle => isOne (Lexeme.eq_singleton_of_lowered_eq_singleton isSingle)
    rw [ofLexeme_of_ne_singleton loweredLonger,
      ofLexeme_of_ne_singleton fun character isSingle => isOne ⟨character, isSingle⟩,
      lowered, String.toList_ofList, Text.numeral?_map_lowerUnit]

end Token

/-- The same fault with the unit letters of its lexeme in lower case. -/
def Fault.lowered : Fault → Fault
  | operatorOutOfPlace lexeme => operatorOutOfPlace (Lexeme.lowered lexeme)
  | misplaced lexeme expected => misplaced (Lexeme.lowered lexeme) expected
  | notANumber lexeme => notANumber (Lexeme.lowered lexeme)

def Slot.lowered (slot : Slot) : Slot :=
  slot.mapError Fault.lowered

namespace Stage

/-- The reader goes the same way, and quotes the lexeme as it is. -/
theorem step_lowered (stage : Stage) (lexeme : String) :
    stage.step (lowered lexeme) =
      ((stage.step lexeme).1.map Slot.lowered, (stage.step lexeme).2) := by
  have sameToken := Token.ofLexeme_lowered lexeme
  cases stage with
  | beforeNumber draft =>
      cases token : Token.ofLexeme lexeme with
      | sign sign =>
          rw [token] at sameToken
          cases fresh : draft.isFresh <;>
            simp [step, token, sameToken, fresh, reject, Slot.lowered, Except.mapError, Fault.lowered]
      | _ =>
          rw [token] at sameToken
          simp [step, token, sameToken, reject, Slot.lowered, Except.mapError, Fault.lowered]
  | _ =>
      cases token : Token.ofLexeme lexeme <;> rw [token] at sameToken <;>
        simp [step, token, sameToken, reject, Slot.lowered, Except.mapError, Fault.lowered]

theorem advance_map_lowered (stage : Stage) (lexemes : List String) :
    stage.advance (lexemes.map lowered) = stage.advance lexemes := by
  induction lexemes generalizing stage with
  | nil => rfl
  | cons lexeme later ih => rw [List.map_cons, advance_cons, step_lowered, ih, advance_cons]

theorem completed_map_lowered (stage : Stage) (lexemes : List String) :
    stage.completed (lexemes.map lowered) = (stage.completed lexemes).map Slot.lowered := by
  induction lexemes generalizing stage with
  | nil => rfl
  | cons lexeme later ih =>
      rw [List.map_cons, completed_cons, step_lowered, ih, completed_cons, List.map_append,
        Option.toList_map]

theorem map_lowered_finish (stage : Stage) : stage.finish.map Slot.lowered = stage.finish := by
  cases stage with
  | beforeNumber draft =>
      rw [finish]
      split <;> rfl
  | _ => rfl

end Stage

open Stage

/-- What is read of lexemes with other unit letters is the same, but for the lexemes in faults. -/
theorem read_map_lowered (lexemes : List String) :
    read (lexemes.map lowered) = (read lexemes).map Slot.lowered := by
  rw [read, completed_map_lowered, advance_map_lowered, read, List.map_append, ← Option.toList_map,
    map_lowered_finish]

end Expression

open Expression (Fault Slot)

theorem value_lowered (slot : Slot) (rate : Rate) :
    slot.lowered.value rate = (slot.value rate).mapError Fault.lowered := by
  cases slot <;> rfl

theorem map_lowered_evaluate (text : String) (rate : Rate) :
    (evaluate text rate).map (Except.mapError Fault.lowered) =
      values (Expression.read ((Lexeme.split text).map Lexeme.lowered)) rate := by
  rw [Expression.read_map_lowered, evaluate, slotsOf, values, values, List.map_map, List.map_map]
  exact List.map_congr_left fun slot _ => (value_lowered slot rate).symm

/--
Two results are the same up to the case of unit letters: the same value, or
faults of one kind that expect the same and whose lexemes differ in case only.
-/
inductive AgreeUpToCase : Except Fault Span → Except Fault Span → Prop where
  | value (span : Span) : AgreeUpToCase (.ok span) (.ok span)
  | fault {first second : Fault} :
      first.lowered = second.lowered →
      AgreeUpToCase (.error first) (.error second)

theorem agreeUpToCase_of_mapError_eq {first second : Except Fault Span}
    (same : first.mapError Fault.lowered = second.mapError Fault.lowered) :
    AgreeUpToCase first second := by
  cases first with
  | ok span =>
      cases second with
      | ok other =>
          cases same
          exact .value span
      | error => cases same
  | error fault =>
      cases second with
      | ok => cases same
      | error other => exact .fault (Except.error.inj same)

/-- The text holds the words in order, with blanks or nothing around and between them. -/
inductive SpacedOut : List String → String → Prop where
  | done {gap : String} : Text.isBlankText gap = true → SpacedOut [] gap
  | word {gap word text : String} {later : List String} :
      Text.isBlankText gap = true →
      SpacedOut later text →
      SpacedOut (word :: later) (gap ++ word ++ text)

theorem SpacedOut.strip_eq {words : List String} {text : String} (spacedOut : SpacedOut words text) :
    Text.strip text.toList = Text.strip (String.join words).toList := by
  induction spacedOut with
  | done blank => exact (Text.strip_eq_nil_iff _).mpr blank
  | @word gap word text later blank _ ih =>
      have noGap : Text.strip gap.toList = [] := (Text.strip_eq_nil_iff _).mpr blank
      rw [String.join_cons, String.toList_append, String.toList_append, String.toList_append,
        Text.strip_append, Text.strip_append, Text.strip_append, noGap, ih, List.nil_append]

theorem spacedOut_append_intercalate {gap : String} (blank : Text.isBlankText gap = true)
    (words : List String) {lead : String} (leadBlank : Text.isBlankText lead = true) :
    SpacedOut words (lead ++ gap.intercalate words) := by
  -- The gap after a word leads in the words after it.
  induction words generalizing lead with
  | nil => simpa using SpacedOut.done leadBlank
  | cons word later ih =>
      cases later with
      | nil =>
          have nothing : Text.isBlankText "" = true := rfl
          have single : SpacedOut [word] (lead ++ word ++ "") := .word leadBlank (.done nothing)
          simpa using single
      | cons second rest =>
          rw [String.intercalate_cons_cons, String.append_assoc, ← String.append_assoc]
          exact .word leadBlank (ih blank)

/-- Words are spaced out when they are joined by a blank text. -/
theorem spacedOut_intercalate {gap : String} (blank : Text.isBlankText gap = true)
    (words : List String) : SpacedOut words (gap.intercalate words) := by
  have nothing : Text.isBlankText "" = true := rfl
  have ledIn := spacedOut_append_intercalate blank words nothing
  rwa [String.empty_append] at ledIn

/--
Blanks and the case of unit letters make no difference to what texts evaluate to,
but for the case of the lexemes in faults; blanks alone make none at all.
-/
theorem evaluate_blind_to_blanks_and_case (rate : Rate) :
    (∀ first second : String,
      (Text.strip first.toList).map Lexeme.lowerUnit =
          (Text.strip second.toList).map Lexeme.lowerUnit →
        List.Forall₂ AgreeUpToCase (evaluate first rate) (evaluate second rate)) ∧
      (∀ first second : String,
        Text.strip first.toList = Text.strip second.toList →
          evaluate first rate = evaluate second rate ∧
            calculate first rate = calculate second rate) ∧
      ∀ words : List String,
        (∀ text, SpacedOut words text →
          evaluate text rate = evaluate (String.join words) rate) ∧
        ∀ gap, Text.isBlankText gap = true →
          evaluate (gap.intercalate words) rate = evaluate (String.join words) rate := by
  have sameSpacedOut : ∀ words text, SpacedOut words text →
      evaluate text rate = evaluate (String.join words) rate := by
    intro words text spacedOut
    rw [evaluate, slotsOf_eq_of_strip_eq spacedOut.strip_eq, evaluate]
  refine ⟨?_, ?_, fun words => ⟨sameSpacedOut words, fun gap blank => ?_⟩⟩
  · intro first second same
    have sameLowered : (evaluate first rate).map (Except.mapError Fault.lowered) =
        (evaluate second rate).map (Except.mapError Fault.lowered) := by
      rw [map_lowered_evaluate, map_lowered_evaluate, Lexeme.map_lowered_split,
        Lexeme.map_lowered_split, same]
    rw [← List.forall₂_eq_eq_eq, List.forall₂_map_left_iff, List.forall₂_map_right_iff]
      at sameLowered
    exact sameLowered.imp fun _ _ => agreeUpToCase_of_mapError_eq
  · intro first second same
    have sameSlots := slotsOf_eq_of_strip_eq same
    exact ⟨by rw [evaluate, sameSlots, evaluate], calculate_eq_of_slotsOf_eq sameSlots rate⟩
  · exact sameSpacedOut words _ (spacedOut_intercalate blank words)

/-- A faulty text in two spellings, and words that different blanks stand between. -/
theorem evaluate_blind_to_spelling_of_fault :
    (Text.strip "1H 5, 2\td Hx".toList).map Lexeme.lowerUnit =
        (Text.strip "1h5,2Dhx".toList).map Lexeme.lowerUnit ∧
      List.Forall₂ AgreeUpToCase (evaluate "1H 5, 2\td Hx" .thirtyFrames)
        (evaluate "1h5,2Dhx" .thirtyFrames) ∧
      evaluate "1H 5, 2\td Hx" .thirtyFrames =
        [.ok ⟨108000, .thirtyFrames⟩, .error (.misplaced "H" .delimiterOrNumber)] ∧
      Text.strip "1 H5".toList = Text.strip "1H\n5".toList ∧
      calculate "1 H5" .thirtyFrames = calculate "1H\n5" .thirtyFrames ∧
      SpacedOut ["1h", "-", "30 m"] "1h\t- 30 m\n" ∧
      evaluate "1h\t- 30 m\n" .thirtyFrames = evaluate "1h-30 m" .thirtyFrames := by
  have blind := evaluate_blind_to_blanks_and_case .thirtyFrames
  have sameLowered : (Text.strip "1H 5, 2\td Hx".toList).map Lexeme.lowerUnit =
      (Text.strip "1h5,2Dhx".toList).map Lexeme.lowerUnit := by decide +kernel
  have sameStripped : Text.strip "1 H5".toList = Text.strip "1H\n5".toList := by decide +kernel
  have minutes : SpacedOut ["30 m"] (" " ++ "30 m" ++ "\n") := .word rfl (.done rfl)
  have signed : SpacedOut ["-", "30 m"] ("\t" ++ "-" ++ " 30 m\n") := .word rfl minutes
  have spacedOut : SpacedOut ["1h", "-", "30 m"] ("" ++ "1h" ++ "\t- 30 m\n") := .word rfl signed
  have written : "" ++ "1h" ++ "\t- 30 m\n" = "1h\t- 30 m\n" := by decide
  have joined : String.join ["1h", "-", "30 m"] = "1h-30 m" := by decide
  have together := (blind.2.2 _).1 _ spacedOut
  rw [joined, written] at together
  rw [written] at spacedOut
  exact ⟨sameLowered, blind.1 _ _ sameLowered, by decide +kernel, sameStripped,
    (blind.2.1 _ _ sameStripped).2, spacedOut, together⟩

end DurationCalc
