import DurationCalc.Proofs.CanonicalReading
import DurationCalc.Proofs.CellOutcomes

/-!
# Adding texts adds their values

Two expressions that are written one after the other, with a plus between them
unless the second one begins with a sign, are one expression: its terms are those of
the first and then those of the second. Nothing that the first one leaves open is
drawn into the second, because a sign always comes between them, and a last sign of
the second one keeps its term of nothing. As every term is converted on its own, the
counts add up at every rate.
-/

namespace DurationCalc

open Expression (Spells SpellsAtEnd Sign)

namespace Expression

/-- The lexemes with a plus before them, unless they begin with a sign. -/
def withSign : List String → List String
  | [] => ["+"]
  | first :: later =>
      if (Sign.ofLexeme? first).isSome then first :: later else "+" :: first :: later

theorem withSign_of_sign {operator : String} {sign : Sign}
    (isSign : Sign.ofLexeme? operator = some sign) (later : List String) :
    withSign (operator :: later) = operator :: later := by
  rw [withSign, isSign]
  rfl

theorem withSign_of_noSign {first : String} (noSign : Sign.ofLexeme? first = none)
    (later : List String) : withSign (first :: later) = "+" :: first :: later := by
  rw [withSign, noSign]
  rfl

theorem withSign_append {lexemes : List String} (nonempty : lexemes ≠ [])
    (later : List String) : withSign (lexemes ++ later) = withSign lexemes ++ later := by
  cases lexemes with
  | nil => exact absurd rfl nonempty
  | cons first rest =>
      rw [List.cons_append, withSign, withSign]
      split <;> rfl

theorem SpellsTerm.exists_cons {term : List String} {amount : Nat}
    (spells : SpellsTerm term amount) :
    ∃ numeral later, term = numeral :: later ∧ Sign.ofLexeme? numeral = none := by
  cases spells with
  | bare isNumber => exact ⟨_, _, rfl, Token.sign?_of_numeral isNumber⟩
  | measured isNumber _ => exact ⟨_, _, rfl, Token.sign?_of_numeral isNumber⟩
  | more isNumber _ _ => exact ⟨_, _, rfl, Token.sign?_of_numeral isNumber⟩

theorem Spells.ne_nil {lexemes : List String} {values : List Int}
    (spells : Spells lexemes values) : lexemes ≠ [] := by
  cases spells with
  | unsigned spellsTerm _ =>
      obtain ⟨numeral, later, rfl, _⟩ := spellsTerm.exists_cons
      simp
  | signed _ nonempty => exact nonempty

/-- With a plus before it, a first term without a sign keeps its value. -/
theorem Spells.spellsSigned_withSign {lexemes : List String} {values : List Int}
    (spells : Spells lexemes values) : SpellsSigned (withSign lexemes) values := by
  cases spells with
  | unsigned spellsTerm spellsLater =>
      have isSign : Sign.ofLexeme? "+" = some .plus := rfl
      obtain ⟨numeral, rest, rfl, noSign⟩ := spellsTerm.exists_cons
      rw [List.cons_append, withSign_of_noSign noSign]
      exact .next isSign spellsTerm spellsLater
  | signed spellsSigned nonempty =>
      cases spellsSigned with
      | done => exact absurd rfl nonempty
      | next isSign spellsTerm spellsLater =>
          rw [List.cons_append, withSign_of_sign isSign]
          exact .next isSign spellsTerm spellsLater

/-- The terms of an expression and of one that ends the text, one after the other. -/
theorem SpellsAtEnd.append_withSign {first second : List String} {values later : List Int}
    (spells : Spells first values) (spellsAtEnd : SpellsAtEnd second later) :
    SpellsAtEnd (first ++ withSign second) (values ++ later) := by
  cases spellsAtEnd with
  | complete spellsSecond => exact .complete (spells.append spellsSecond.spellsSigned_withSign)
  | trailingSign spellsSecond isSign =>
      rw [withSign_append spellsSecond.ne_nil, ← List.append_assoc, ← List.append_assoc]
      exact .trailingSign (spells.append spellsSecond.spellsSigned_withSign) isSign
  | loneSign isSign =>
      rw [withSign_of_sign isSign]
      exact .trailingSign spells isSign

/-- Without a sign at the end the expression is complete. -/
theorem SpellsAtEnd.spells {lexemes : List String} {values : List Int}
    (spellsAtEnd : SpellsAtEnd lexemes values)
    (noSignLast : ∀ earlier operator, lexemes = earlier ++ [operator] →
      Sign.ofLexeme? operator = none) : Spells lexemes values := by
  cases spellsAtEnd with
  | complete spells => exact spells
  | trailingSign spells isSign =>
      rw [noSignLast _ _ rfl] at isSign
      cases isSign
  | loneSign isSign =>
      rw [noSignLast [] _ rfl] at isSign
      cases isSign

end Expression

def isOperator (character : Char) : Bool :=
  ['+', '-'].contains character

/-- The first character that is not blank is a sign. -/
def beginsWithSign (text : String) : Bool :=
  (Text.strip text.toList).head?.any isOperator

/-- The last character that is not blank is a sign. -/
def endsWithSign (text : String) : Bool :=
  (Text.strip text.toList).getLast?.any isOperator

theorem eq_of_isOperator {character : Char} (operator : isOperator character = true) :
    character = '+' ∨ character = '-' := by
  simpa [isOperator] using operator

theorem isDelimiter_of_isOperator {character : Char} (operator : isOperator character = true) :
    Lexeme.isDelimiter character = true := by
  rcases eq_of_isOperator operator with rfl | rfl <;> rfl

theorem exists_sign_of_isOperator {character : Char} (operator : isOperator character = true) :
    ∃ sign, Sign.ofLexeme? (String.ofList [character]) = some sign := by
  rcases eq_of_isOperator operator with rfl | rfl
  · exact ⟨.plus, rfl⟩
  · exact ⟨.minus, rfl⟩

theorem exists_toList_of_sign {lexeme : String} {sign : Sign}
    (isSign : Sign.ofLexeme? lexeme = some sign) :
    ∃ character, lexeme.toList = [character] ∧ isOperator character = true := by
  rcases Sign.eq_of_ofLexeme? isSign with rfl | rfl
  · exact ⟨'+', rfl, rfl⟩
  · exact ⟨'-', rfl, rfl⟩

theorem sign?_last_eq_none {text : String} (noSign : endsWithSign text = false)
    {earlier : List String} {last : String} (whole : Lexeme.split text = earlier ++ [last]) :
    Sign.ofLexeme? last = none := by
  cases isSign : Sign.ofLexeme? last with
  | none => rfl
  | some sign =>
      obtain ⟨character, onlyOne, operator⟩ := exists_toList_of_sign isSign
      rw [endsWithSign, ← Lexeme.flatten_split, whole] at noSign
      simp [onlyOne, operator] at noSign

theorem sign?_first_eq_none {text : String} (noSign : beginsWithSign text = false)
    {first : String} {later : List String} (whole : Lexeme.split text = first :: later) :
    Sign.ofLexeme? first = none := by
  cases isSign : Sign.ofLexeme? first with
  | none => rfl
  | some sign =>
      obtain ⟨character, onlyOne, operator⟩ := exists_toList_of_sign isSign
      rw [beginsWithSign, ← Lexeme.flatten_split, whole] at noSign
      simp [onlyOne, operator] at noSign

/-- A sign at the beginning stays a lexeme of its own, whatever stands before it. -/
theorem split_append_of_beginsWithSign {right : String} (begins : beginsWithSign right = true)
    (left : String) :
    Lexeme.split (left ++ right) =
      Lexeme.split left ++ Expression.withSign (Lexeme.split right) := by
  obtain ⟨character, isFirst, operator⟩ := (Option.any_eq_true _ _).mp begins
  obtain ⟨rest, whole⟩ := List.head?_eq_some_iff.mp isFirst
  obtain ⟨sign, isSign⟩ := exists_sign_of_isOperator operator
  have isOne := isDelimiter_of_isOperator operator
  have cutRight : Lexeme.split right =
      String.ofList [character] :: (Lexeme.pieces rest).map String.ofList := by
    rw [Lexeme.split, whole, Lexeme.pieces, Lexeme.attach_of_isDelimiter isOne, List.map_cons]
  rw [cutRight, Expression.withSign_of_sign isSign, Lexeme.split, String.toList_append,
    Text.strip_append, whole, Lexeme.pieces_append_delimiter isOne, List.map_append,
    List.map_cons, Lexeme.split]

theorem split_append_plus {right : String} (noSign : beginsWithSign right = false)
    (left : String) :
    Lexeme.split (left ++ "+" ++ right) =
      Lexeme.split left ++ Expression.withSign (Lexeme.split right) := by
  have isOne : Lexeme.isDelimiter '+' = true := rfl
  have cut : Lexeme.split (left ++ "+" ++ right) =
      Lexeme.split left ++ "+" :: Lexeme.split right :=
    Lexeme.split_append_delimiter isOne left right
  rw [cut]
  cases whole : Lexeme.split right with
  | nil => rfl
  | cons first later =>
      rw [Expression.withSign_of_noSign (sign?_first_eq_none noSign whole)]

theorem spellsAtEnd_split {text : String} {values : List Int}
    (commaFree : ',' ∉ text.toList) (only : slotsOf text = [.ok values]) :
    SpellsAtEnd (Lexeme.split text) values := by
  refine (Expression.read_eq_ok_iff ?_ values).mp only
  intro isThere
  have inPieces : ',' ∈ ((Lexeme.split text).map String.toList).flatten :=
    List.mem_flatten_of_mem (List.mem_map_of_mem isThere) List.mem_cons_self
  rw [Lexeme.flatten_split] at inPieces
  exact commaFree (List.mem_of_mem_filter inPieces)

theorem evaluate_eq_single_ok_iff (text : String) (rate : Rate) (span : Span) :
    evaluate text rate = [.ok span] ↔
      ∃ terms, slotsOf text = [.ok terms] ∧ total terms rate = span := by
  rw [evaluate, values, List.map_eq_singleton_iff]
  constructor
  · rintro ⟨slot, only, hasValue⟩
    obtain ⟨terms, rfl, isTotal⟩ := (Expression.Slot.value_eq_ok_iff slot rate span).mp hasValue
    exact ⟨terms, only, isTotal⟩
  · rintro ⟨terms, only, rfl⟩
    exact ⟨.ok terms, only, rfl⟩

namespace Cell

theorem sumMillis_cons {cell : String} {later : List String} {amount rest : Int}
    (ofCell : millis cell = .ok amount) (ofLater : sumMillis later = .ok rest) :
    sumMillis (cell :: later) = .ok (amount + rest) := by
  cases blank : Text.isBlankText cell with
  | true =>
      rw [(isBlankText_iff_missing cell).mp blank] at ofCell
      cases ofCell
  | false =>
      rw [sumMillis, blank, ofCell, ofLater]
      rfl

theorem millis_of_slotsOf {cell : String} {values : List Int}
    (only : slotsOf cell = [.ok values]) :
    millis cell = .ok (total values .milliseconds).count := by
  rw [millis, only]

end Cell

/--
Two texts without a comma, each with one value and the first without a sign at its
end, have the sum of the two values when they are written one after the other, with
a plus between them unless the second one begins with a sign. In milliseconds it is
what the two cells add up to.
-/
theorem evaluate_append_adds {left right : String} {rate : Rate} {first second : Span}
    (leftCommaFree : ',' ∉ left.toList) (rightCommaFree : ',' ∉ right.toList)
    (leftValue : evaluate left rate = [.ok first])
    (rightValue : evaluate right rate = [.ok second])
    (noSignLast : endsWithSign left = false) :
    (beginsWithSign right = true →
      evaluate (left ++ right) rate = [.ok ⟨first.count + second.count, rate⟩]) ∧
      (beginsWithSign right = false →
        evaluate (left ++ "+" ++ right) rate = [.ok ⟨first.count + second.count, rate⟩]) ∧
      (rate = .milliseconds →
        Cell.sum [[left, right]] = .ok (Span.mk (first.count + second.count) rate).text) := by
  obtain ⟨terms, leftOnly, rfl⟩ := (evaluate_eq_single_ok_iff left rate first).mp leftValue
  obtain ⟨others, rightOnly, rfl⟩ := (evaluate_eq_single_ok_iff right rate second).mp rightValue
  -- Signed terms may follow a complete expression only, so the first text must be one.
  have leftSpells : Spells (Lexeme.split left) terms :=
    (spellsAtEnd_split leftCommaFree leftOnly).spells fun _ _ whole =>
      sign?_last_eq_none noSignLast whole
  have together := SpellsAtEnd.append_withSign leftSpells
    (spellsAtEnd_split rightCommaFree rightOnly)
  have evaluated {text : String} (whole : Lexeme.split text =
      Lexeme.split left ++ Expression.withSign (Lexeme.split right)) :
      evaluate text rate =
        [.ok ⟨(total terms rate).count + (total others rate).count, rate⟩] := by
    rw [← whole] at together
    exact (evaluate_eq_single_ok_iff _ _ _).mpr
      ⟨terms ++ others, together.read_eq, total_append terms others rate⟩
  refine ⟨?_, ?_, ?_⟩
  · intro begins
    exact evaluated (split_append_of_beginsWithSign begins left)
  · intro noSign
    exact evaluated (split_append_plus noSign left)
  · rintro rfl
    have nothing : Cell.sumMillis [] = .ok 0 := rfl
    have added := Cell.sumMillis_cons (Cell.millis_of_slotsOf leftOnly)
      (Cell.sumMillis_cons (Cell.millis_of_slotsOf rightOnly) nothing)
    have sameText (count : Int) : (Span.mk count .milliseconds).text = durationText count :=
      congrArg durationText (Span.millis_ofMillis count)
    rw [Cell.sum, List.flatten_singleton, added, Int.add_zero, sameText]
    rfl

/--
Five milliseconds are pending at the end of the first text, where the sign of the
second one comes, and its last sign adds nothing.
-/
theorem evaluate_append_adds_to_pending_millis :
    (endsWithSign "1h - 30m 5" = false ∧ beginsWithSign "\t-45s + 16 +" = true ∧
        evaluate "1h - 30m 5" .thirtyFrames = [.ok ⟨54000, .thirtyFrames⟩] ∧
        evaluate "\t-45s + 16 +" .thirtyFrames = [.ok ⟨-1350, .thirtyFrames⟩] ∧
        evaluate ("1h - 30m 5" ++ "\t-45s + 16 +") .thirtyFrames =
          [.ok ⟨54000 + -1350, .thirtyFrames⟩]) ∧
      (beginsWithSign "16 - 2s" = false ∧
        evaluate ("1h - 30m 5" ++ "+" ++ "16 - 2s") .milliseconds =
          [.ok ⟨1799995 + -1984, .milliseconds⟩] ∧
        Cell.sum [["1h - 30m 5", "16 - 2s"]] =
          .ok (Span.mk (1799995 + -1984) .milliseconds).text) := by
  have leftFrames : evaluate "1h - 30m 5" .thirtyFrames = [.ok ⟨54000, .thirtyFrames⟩] := by
    decide +kernel
  have leftMillis : evaluate "1h - 30m 5" .milliseconds = [.ok ⟨1799995, .milliseconds⟩] := by
    decide +kernel
  have rightFrames : evaluate "\t-45s + 16 +" .thirtyFrames = [.ok ⟨-1350, .thirtyFrames⟩] := by
    decide +kernel
  have rightMillis : evaluate "16 - 2s" .milliseconds = [.ok ⟨-1984, .milliseconds⟩] := by
    decide +kernel
  have noSignLast : endsWithSign "1h - 30m 5" = false := by decide +kernel
  have begins : beginsWithSign "\t-45s + 16 +" = true := by decide +kernel
  have noSign : beginsWithSign "16 - 2s" = false := by decide +kernel
  have inFrames := evaluate_append_adds (by decide) (by decide) leftFrames rightFrames noSignLast
  have inMillis := evaluate_append_adds (by decide) (by decide) leftMillis rightMillis noSignLast
  exact ⟨⟨noSignLast, begins, leftFrames, rightFrames, inFrames.1 begins⟩,
    ⟨noSign, inMillis.2.1 noSign, inMillis.2.2 rfl⟩⟩

/-- A sign at the end of the first text would meet the plus, and that is a fault. -/
example : evaluate ("1h +" ++ "+" ++ "2m") .milliseconds =
    [.error (.operatorOutOfPlace "+")] := by decide +kernel

end DurationCalc
