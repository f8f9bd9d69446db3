import DurationCalc.Cell
import DurationCalc.Lexeme.Lossless
import DurationCalc.Proofs.ClosestCount
import DurationCalc.Proofs.GrammarRecognition

/-!
# Canonical texts are read back

The lexemes of a canonical text are padded numbers with their unit letters, and
perhaps a last number for the milliseconds. They spell a single term, which
amounts to the clock reading that was written, so a text is read as the duration
it was made from. The count of a span survives the way through its text because
it survives the way through its milliseconds.
-/

namespace DurationCalc

open Expression (SpellsTerm SpellsSigned Spells Sign)

theorem TimeUnit.isDelimiter_letter (unit : TimeUnit) :
    Lexeme.isDelimiter unit.letter = true := by
  cases unit <;> rfl

namespace Clock

/-- What a written part is cut into: its padded amount and the letter of its unit. -/
def partLexemes (part : Nat × Nat × TimeUnit) : List String :=
  [String.ofList (Text.padded part.2.1 part.1), String.singleton part.2.2.letter]

def partMillis (part : Nat × Nat × TimeUnit) : Nat :=
  part.1 * part.2.2.millis

theorem split_partText_append (part : Nat × Nat × TimeUnit) (rest : List Char) :
    Lexeme.split (String.ofList (partText part ++ rest)) =
      partLexemes part ++ Lexeme.split (String.ofList rest) := by
  have amountThenLetter : String.ofList (partText part ++ rest) =
      String.ofList (Text.padded part.2.1 part.1) ++ String.singleton part.2.2.letter ++
        String.ofList rest := by
    rw [partText, String.singleton_eq_ofList, ← String.ofList_append, ← String.ofList_append]
  rw [amountThenLetter, Lexeme.split_append_delimiter part.2.2.isDelimiter_letter,
    Lexeme.split_numeral (Text.isNumeral_padded part.2.1 part.1)]
  rfl

theorem split_parts_append (parts : List (Nat × Nat × TimeUnit)) (rest : List Char) :
    Lexeme.split (String.ofList (parts.flatMap partText ++ rest)) =
      parts.flatMap partLexemes ++ Lexeme.split (String.ofList rest) := by
  induction parts with
  | nil => rfl
  | cons part later ih =>
      rw [List.flatMap_cons, List.append_assoc, split_partText_append, ih, List.flatMap_cons,
        List.append_assoc]

/-- Parts continue into any term that comes after them. -/
theorem spellsTerm_parts_append (parts : List (Nat × Nat × TimeUnit)) {rest : List String}
    {amount : Nat} (spells : SpellsTerm rest amount) :
    SpellsTerm (parts.flatMap partLexemes ++ rest) ((parts.map partMillis).sum + amount) := by
  induction parts with
  | nil => simpa using spells
  | cons part later ih =>
      rw [List.map_cons, List.sum_cons, Nat.add_assoc]
      exact .more (by simp) part.2.2.ofToken?_letter ih

theorem spellsTerm_parts {parts : List (Nat × Nat × TimeUnit)} (nonempty : parts ≠ []) :
    SpellsTerm (parts.flatMap partLexemes) (parts.map partMillis).sum := by
  -- The last part closes the term that the parts before it continue.
  obtain rfl | ⟨earlier, last, rfl⟩ := List.eq_nil_or_concat parts
  · exact absurd rfl nonempty
  · have closing : SpellsTerm (partLexemes last) (partMillis last) :=
      .measured (by simp) last.2.2.ofToken?_letter
    simpa using spellsTerm_parts_append earlier closing

theorem sum_partMillis_dropWhile (parts : List (Nat × Nat × TimeUnit)) :
    ((parts.dropWhile fun part => part.1 == 0).map partMillis).sum =
      (parts.map partMillis).sum := by
  induction parts with
  | nil => rfl
  | cons part later ih =>
      rw [List.dropWhile_cons]
      split
      · rename_i isZero
        have vanishes : partMillis part = 0 := by
          rw [partMillis, eq_of_beq isZero, Nat.zero_mul]
        rw [ih, List.map_cons, List.sum_cons, vanishes, Nat.zero_add]
      · rfl

theorem sum_writtenParts_add_millis (clock : Clock) :
    (clock.writtenParts.map partMillis).sum + clock.millis = clock.toMillis := by
  -- The amounts stay abstract here, as their factors are large literals.
  have regroup (days hours minutes seconds millis : Nat) :
      [days, hours, minutes, seconds].sum + millis =
        days + hours + minutes + seconds + millis := by
    simp only [List.sum_cons, List.sum_nil]
    omega
  rw [writtenParts, sum_partMillis_dropWhile]
  exact regroup (partMillis (clock.days, 1, .day)) (partMillis (clock.hours, 2, .hour))
    (partMillis (clock.minutes, 2, .minute)) (partMillis (clock.seconds, 2, .second)) clock.millis

/-- The text of a clock reading spells one term of that many milliseconds. -/
theorem spellsTerm_split_text (clock : Clock) :
    SpellsTerm (Lexeme.split (String.ofList clock.text)) clock.toMillis := by
  rw [text, split_parts_append, ← clock.sum_writtenParts_add_millis]
  split
  · rename_i noRemainder
    rw [noRemainder.1, String.ofList_nil, Lexeme.split_empty, List.append_nil, Nat.add_zero]
    exact spellsTerm_parts noRemainder.2
  · rw [Lexeme.split_numeral (Text.isNumeral_padded 3 clock.millis)]
    exact spellsTerm_parts_append clock.writtenParts (.bare (by simp))

end Clock

theorem Expression.SpellsTerm.spells {term : List String} {amount : Nat}
    (spellsTerm : SpellsTerm term amount) : Spells term [(amount : Int)] := by
  simpa using Spells.unsigned spellsTerm .done

theorem Expression.SpellsTerm.spells_minus {term : List String} {amount : Nat}
    (spellsTerm : SpellsTerm term amount) : Spells ("-" :: term) [-(amount : Int)] := by
  have isSign : Sign.ofLexeme? "-" = some .minus := rfl
  have signed := SpellsSigned.next isSign spellsTerm .done
  exact .signed (by simpa using signed) (by simp)

theorem split_minus (characters : List Char) :
    Lexeme.split (String.ofList ('-' :: characters)) =
      "-" :: Lexeme.split (String.ofList characters) := by
  have isDelimiter : Lexeme.isDelimiter '-' = true := rfl
  have minusFirst : String.ofList ('-' :: characters) =
      "" ++ String.singleton '-' ++ String.ofList characters := by
    rw [String.empty_append, String.singleton_eq_ofList, ← String.ofList_append,
      List.singleton_append]
  rw [minusFirst, Lexeme.split_append_delimiter isDelimiter]
  rfl

/-- A canonical text spells an expression of one term, which is the duration itself. -/
theorem spells_split_durationText (millis : Int) :
    Spells (Lexeme.split (durationText millis)) [millis] := by
  have spellsTerm := (Clock.ofMillis millis.natAbs).spellsTerm_split_text
  rw [Clock.toMillis_ofMillis] at spellsTerm
  rw [durationText]
  split
  · have isNegative : -(millis.natAbs : Int) = millis := by omega
    have spells := spellsTerm.spells_minus
    rwa [isNegative, ← split_minus] at spells
  · have isNatural : (millis.natAbs : Int) = millis := by omega
    have spells := spellsTerm.spells
    rwa [isNatural] at spells

theorem slotsOf_durationText (millis : Int) : slotsOf (durationText millis) = [.ok [millis]] := by
  have spells := spells_split_durationText millis
  exact Expression.SpellsAtEnd.read_eq (.complete spells)

theorem total_singleton (millis : Int) (rate : Rate) :
    total [millis] rate = ⟨rate.countAt millis, rate⟩ := by
  simp [total, Span.convert]

theorem total_millis (span : Span) : total [span.millis] span.rate = span := by
  rw [total_singleton, Span.millis, Rate.countAt_millisAt]

/-- At every rate a span is what its text evaluates to. -/
theorem evaluate_text (count : Int) (rate : Rate) :
    evaluate (Span.mk count rate).text rate = [.ok ⟨count, rate⟩] := by
  have sameSpan := total_millis ⟨count, rate⟩
  rw [evaluate, Span.text, slotsOf_durationText, values, List.map_singleton]
  exact congrArg (fun span => [Except.ok span]) sameSpan

/-- One quantum at thirty a second prints as 33 milliseconds and is one quantum again. -/
example : evaluate "033" .thirtyFrames = [.ok ⟨1, .thirtyFrames⟩] := by decide +kernel

theorem Cell.millis_durationText (amount : Int) :
    Cell.millis (durationText amount) = .ok amount := by
  rw [Cell.millis, slotsOf_durationText]
  simp [total_singleton]

end DurationCalc
