import DurationCalc.Expression.Grammar
import DurationCalc.Proofs.CommaIsolation

/-!
# The reader recognizes the grammar

The stages of the reader stand for positions in the grammar. Along every run the
lexemes read so far have the shape that the stage says, with the amounts that it
keeps, so what the reader accepts is an expression of these values. Conversely
every expression runs through. At the end of the text a last sign may lack its
term; everything else is one fault.
-/

namespace DurationCalc.Expression

/-- Units with their numbers: complete pairs, and what they amount to together. -/
inductive SpellsPairs : List String → Nat → Prop where
  | none : SpellsPairs [] 0
  | more {pairs : List String} {numeral letter : String} {whole value : Nat} {unit : TimeUnit} :
      SpellsPairs pairs whole →
      Text.numeral? numeral.toList = some value →
      TimeUnit.ofToken? letter = some unit →
      SpellsPairs (pairs ++ [numeral, letter]) (whole + value * unit.millis)

theorem SpellsPairs.append_term {pairs term : List String} {whole amount : Nat}
    (spellsPairs : SpellsPairs pairs whole) (spellsTerm : SpellsTerm term amount) :
    SpellsTerm (pairs ++ term) (whole + amount) := by
  induction spellsPairs generalizing term amount with
  | none => simpa using spellsTerm
  | more _ isNumber isUnit ih =>
      rw [List.append_assoc, Nat.add_assoc]
      exact ih (.more isNumber isUnit spellsTerm)

theorem SpellsPairs.spellsTerm {pairs : List String} {whole : Nat}
    (spellsPairs : SpellsPairs pairs whole) (nonempty : pairs ≠ []) :
    SpellsTerm pairs whole := by
  cases spellsPairs with
  | none => exact absurd rfl nonempty
  | more earlier isNumber isUnit => exact earlier.append_term (.measured isNumber isUnit)

theorem SpellsSigned.append {first second : List String} {values later : List Int}
    (spells : SpellsSigned first values) (spellsLater : SpellsSigned second later) :
    SpellsSigned (first ++ second) (values ++ later) := by
  induction spells with
  | done => exact spellsLater
  | next isSign spellsTerm _ ih =>
      simpa using SpellsSigned.next isSign spellsTerm ih

/-- Signed terms may follow any expression. -/
theorem Spells.append {first second : List String} {values later : List Int}
    (spells : Spells first values) (spellsLater : SpellsSigned second later) :
    Spells (first ++ second) (values ++ later) := by
  cases spells with
  | unsigned spellsTerm spellsRest =>
      simpa using Spells.unsigned spellsTerm (spellsRest.append spellsLater)
  | signed spellsSigned nonempty =>
      exact .signed (spellsSigned.append spellsLater) (by simp [nonempty])

theorem Spells.append_signed {lexemes term : List String} {values : List Int}
    {operator : String} {sign : Sign} {amount : Nat}
    (spells : Spells lexemes values) (isSign : Sign.ofLexeme? operator = some sign)
    (spellsTerm : SpellsTerm term amount) :
    Spells (lexemes ++ operator :: term) (values ++ [Sign.apply (some sign) amount]) := by
  have last := SpellsSigned.next isSign spellsTerm .done
  rw [List.append_nil] at last
  exact spells.append last

/-- What may stand in front of a term, and the draft that the reader makes of it. -/
inductive Opens : List String → Draft → Prop where
  | nothing : Opens [] {}
  | sign {operator : String} {sign : Sign} :
      Sign.ofLexeme? operator = some sign →
      Opens [operator] { sign := some sign }
  | terms {lexemes : List String} {values : List Int} {operator : String} {sign : Sign} :
      Spells lexemes values →
      Sign.ofLexeme? operator = some sign →
      Opens (lexemes ++ [operator]) { finished := values.reverse, sign := some sign }

theorem Opens.spells {before term : List String} {draft : Draft} {amount : Nat}
    (opens : Opens before draft) (spellsTerm : SpellsTerm term amount) :
    Spells (before ++ term) (draft.close amount) := by
  cases opens with
  | nothing => simpa [Draft.close] using Spells.unsigned spellsTerm .done
  | sign isSign =>
      have signed := SpellsSigned.next isSign spellsTerm .done
      exact .signed (by simpa [Draft.close] using signed) (by simp)
  | terms spells isSign =>
      simpa [Draft.close] using spells.append_signed isSign spellsTerm

theorem Opens.eq_nil_of_isFresh {before : List String} {draft : Draft}
    (opens : Opens before draft) (fresh : draft.isFresh = true) : before = [] := by
  cases opens with
  | nothing => rfl
  | sign => simp [Draft.isFresh] at fresh
  | terms => simp [Draft.isFresh] at fresh

/-- The lexemes have the shape that the stage stands for. -/
inductive ReadUpTo : List String → Stage → Prop where
  | beforeNumber {before : List String} {draft : Draft} :
      Opens before draft →
      ReadUpTo before (.beforeNumber draft)
  | afterNumber {before pairs : List String} {draft : Draft} {whole number : Nat}
      {numeral : String} :
      Opens before draft →
      SpellsPairs pairs whole →
      Text.numeral? numeral.toList = some number →
      ReadUpTo (before ++ pairs ++ [numeral]) (.afterNumber draft whole number)
  | afterUnit {before pairs : List String} {draft : Draft} {whole : Nat} :
      Opens before draft →
      SpellsPairs pairs whole →
      pairs ≠ [] →
      ReadUpTo (before ++ pairs) (.afterUnit draft whole)

namespace ReadUpTo

open Stage

/-- Where a term may end, an expression has been read. -/
theorem spells {lexemes : List String} {stage : Stage} {draft : Draft} {amount : Nat}
    (readUpTo : ReadUpTo lexemes stage) (termEnd : stage.termEnd? = some (draft, amount)) :
    Spells lexemes (draft.close amount) := by
  cases readUpTo with
  | beforeNumber => cases termEnd
  | afterNumber opens spellsPairs isNumber =>
      cases termEnd
      rw [List.append_assoc]
      exact opens.spells (spellsPairs.append_term (.bare isNumber))
  | afterUnit opens spellsPairs nonempty =>
      cases termEnd
      exact opens.spells (spellsPairs.spellsTerm nonempty)

theorem pairs_of_termStart? {lexemes : List String} {stage : Stage} {draft : Draft} {whole : Nat}
    (readUpTo : ReadUpTo lexemes stage) (termStart : stage.termStart? = some (draft, whole)) :
    ∃ before pairs, lexemes = before ++ pairs ∧ Opens before draft ∧ SpellsPairs pairs whole := by
  cases readUpTo with
  | beforeNumber opens =>
      cases termStart
      exact ⟨lexemes, [], (List.append_nil _).symm, opens, .none⟩
  | afterNumber => cases termStart
  | afterUnit opens spellsPairs nonempty =>
      cases termStart
      exact ⟨_, _, rfl, opens, spellsPairs⟩

/-- A lexeme that continues the expression leads to the shape of the next stage. -/
theorem move {lexemes : List String} {stage next : Stage} {lexeme : String}
    (readUpTo : ReadUpTo lexemes stage) (moves : Moves stage lexeme next) :
    ReadUpTo (lexemes ++ [lexeme]) next := by
  cases moves with
  | firstSign isSign =>
      cases readUpTo with
      | beforeNumber opens =>
          rw [opens.eq_nil_of_isFresh rfl]
          exact .beforeNumber (.sign isSign)
  | nextSign termEnd isSign =>
      have opens := Opens.terms (readUpTo.spells termEnd) isSign
      exact .beforeNumber (by simpa [Draft.close, Draft.next] using opens)
  | number termStart isNumber =>
      obtain ⟨before, pairs, rfl, opens, spellsPairs⟩ := readUpTo.pairs_of_termStart? termStart
      exact .afterNumber opens spellsPairs isNumber
  | unit isUnit =>
      cases readUpTo with
      | afterNumber opens spellsPairs isNumber =>
          have withUnit := spellsPairs.more isNumber isUnit
          simpa using ReadUpTo.afterUnit opens withUnit (by simp)

theorem runs {earlier later : List String} {stage next : Stage}
    (readUpTo : ReadUpTo earlier stage) (runsOn : Runs stage later next) :
    ReadUpTo (earlier ++ later) next := by
  induction runsOn generalizing earlier with
  | done => simpa using readUpTo
  | move moves _ ih => simpa using ih (readUpTo.move moves)

/-- A last sign without its term counts as a term of nothing. -/
theorem spellsAtEnd {lexemes : List String} {stage : Stage} {values : List Int}
    (readUpTo : ReadUpTo lexemes stage) (finishes : stage.finish = some (.ok values)) :
    SpellsAtEnd lexemes values := by
  cases readUpTo with
  | beforeNumber opens =>
      rw [finish] at finishes
      split at finishes
      · cases finishes
      rename_i underWay
      cases finishes
      rw [Draft.close_eq, Sign.apply_zero]
      cases opens with
      | nothing => exact absurd rfl underWay
      | sign isSign => exact .loneSign isSign
      | terms spells isSign =>
          rw [List.reverse_reverse]
          exact .trailingSign spells isSign
  | afterNumber opens spellsPairs isNumber =>
      cases finishes
      exact .complete ((afterNumber opens spellsPairs isNumber).spells rfl)
  | afterUnit opens spellsPairs nonempty =>
      cases finishes
      exact .complete ((afterUnit opens spellsPairs nonempty).spells rfl)

end ReadUpTo

open Stage

/-- A term runs through from wherever its first number may come. -/
theorem SpellsTerm.runs {term : List String} {amount : Nat} (spells : SpellsTerm term amount)
    {stage : Stage} {draft : Draft} {whole : Nat}
    (termStart : stage.termStart? = some (draft, whole)) :
    ∃ next, Runs stage term next ∧ next.termEnd? = some (draft, whole + amount) := by
  induction spells generalizing stage whole with
  | bare isNumber => exact ⟨_, (Moves.number termStart isNumber).runs, rfl⟩
  | measured isNumber isUnit =>
      exact ⟨_, .move (.number termStart isNumber) (Moves.unit isUnit).runs, rfl⟩
  | @more _ _ value _ unit _ isNumber isUnit _ ih =>
      obtain ⟨next, runs, termEnd⟩ :=
        ih (termStart?_afterUnit draft (whole + value * unit.millis))
      refine ⟨next, .move (.number termStart isNumber) (.move (.unit isUnit) runs), ?_⟩
      rw [termEnd, Nat.add_assoc]

theorem SpellsTerm.runs_after_sign {term : List String} {amount : Nat}
    (spells : SpellsTerm term amount) {stage : Stage} {operator : String} {draft : Draft}
    (moves : Moves stage operator (.beforeNumber draft)) :
    ∃ next, Runs stage (operator :: term) next ∧ next.termEnd? = some (draft, amount) := by
  obtain ⟨next, runs, termEnd⟩ := spells.runs (termStart?_beforeNumber draft)
  rw [Nat.zero_add] at termEnd
  exact ⟨next, .move moves runs, termEnd⟩

/-- Signed terms run through from wherever a term may end, and come after the terms before them. -/
theorem SpellsSigned.runs {lexemes : List String} {values : List Int}
    (spells : SpellsSigned lexemes values) {stage : Stage} {draft : Draft} {amount : Nat}
    (termEnd : stage.termEnd? = some (draft, amount)) :
    ∃ next last final, Runs stage lexemes next ∧ next.termEnd? = some (last, final) ∧
      last.close final = draft.close amount ++ values := by
  induction spells generalizing stage draft amount with
  | done => exact ⟨stage, draft, amount, .done, termEnd, (List.append_nil _).symm⟩
  | next isSign spellsTerm _ ih =>
      obtain ⟨middle, runsTerm, middleEnd⟩ :=
        spellsTerm.runs_after_sign (.nextSign termEnd isSign)
      obtain ⟨next, last, final, runsLater, nextEnd, closeEq⟩ := ih middleEnd
      refine ⟨next, last, final, runsTerm.append runsLater, nextEnd, ?_⟩
      rw [closeEq, Draft.close_next, List.append_assoc, List.singleton_append]

/-- Every expression runs through, and its values are those that the reader closes with. -/
theorem Spells.runs {lexemes : List String} {values : List Int} (spells : Spells lexemes values) :
    ∃ next draft amount, Runs start lexemes next ∧ next.termEnd? = some (draft, amount) ∧
      draft.close amount = values := by
  cases spells with
  | unsigned spellsTerm spellsLater =>
      obtain ⟨middle, runsTerm, middleEnd⟩ := spellsTerm.runs (termStart?_beforeNumber {})
      obtain ⟨next, last, final, runsLater, nextEnd, closeEq⟩ := spellsLater.runs middleEnd
      refine ⟨next, last, final, runsTerm.append runsLater, nextEnd, ?_⟩
      rw [closeEq, Nat.zero_add]
      rfl
  | signed spellsSigned nonempty =>
      cases spellsSigned with
      | done => exact absurd rfl nonempty
      | next isSign spellsTerm spellsLater =>
          obtain ⟨middle, runsTerm, middleEnd⟩ := spellsTerm.runs_after_sign (.firstSign isSign)
          obtain ⟨next, last, final, runsLater, nextEnd, closeEq⟩ := spellsLater.runs middleEnd
          refine ⟨next, last, final, runsTerm.append runsLater, nextEnd, ?_⟩
          rw [closeEq]
          rfl

theorem Spells.commaFree {lexemes : List String} {values : List Int}
    (spells : Spells lexemes values) : "," ∉ lexemes := by
  obtain ⟨next, draft, amount, runs, termEnd, closeEq⟩ := spells.runs
  exact runs.commaFree

theorem SpellsAtEnd.runs {lexemes : List String} {values : List Int}
    (spells : SpellsAtEnd lexemes values) :
    ∃ next, Runs start lexemes next ∧ next.finish = some (.ok values) := by
  cases spells with
  | complete spells =>
      obtain ⟨next, draft, amount, runs, termEnd, rfl⟩ := spells.runs
      exact ⟨next, runs, finish_of_termEnd? termEnd⟩
  | trailingSign spells isSign =>
      obtain ⟨next, draft, amount, runs, termEnd, rfl⟩ := spells.runs
      refine ⟨_, runs.append (Moves.nextSign termEnd isSign).runs, ?_⟩
      simp [finish, Draft.isFresh, Draft.next, Draft.close]
  | loneSign isSign =>
      refine ⟨_, (Moves.firstSign isSign).runs, ?_⟩
      simp [finish, Draft.isFresh, Draft.close]

theorem SpellsAtEnd.commaFree {lexemes : List String} {values : List Int}
    (spells : SpellsAtEnd lexemes values) : "," ∉ lexemes := by
  obtain ⟨next, runs, finishes⟩ := spells.runs
  exact runs.commaFree

theorem termEnd?_of_step_comma {stage : Stage} {values : List Int}
    (yields : (stage.step ",").1 = some (.ok values)) :
    ∃ draft amount, stage.termEnd? = some (draft, amount) ∧ draft.close amount = values := by
  cases stage with
  | beforeNumber draft => cases yields
  | afterNumber draft whole number =>
      cases yields
      exact ⟨draft, whole + number, rfl, rfl⟩
  | afterUnit draft whole =>
      cases yields
      exact ⟨draft, whole, rfl, rfl⟩
  | skipping => cases yields

/-- Read from the start, the lexemes have the shape of the stage that they lead to. -/
theorem readUpTo_or_rejects {lexemes : List String} (commaFree : "," ∉ lexemes) :
    (∃ stage, Runs start lexemes stage ∧ ReadUpTo lexemes stage) ∨
      ∃ fault, start.completed lexemes = [.error fault] := by
  have live : start ≠ skipping := by simp [start]
  rcases runs_or_rejects live commaFree with ⟨stage, runs⟩ | ⟨fault, onlyFault, _⟩
  · exact .inl ⟨stage, runs, (ReadUpTo.beforeNumber .nothing).runs runs⟩
  · exact .inr ⟨fault, onlyFault⟩

/-- Before a comma the reader accepts the expressions, with their values. -/
theorem read_append_comma_eq_ok_iff {lexemes : List String} (commaFree : "," ∉ lexemes)
    (values : List Int) :
    read (lexemes ++ [","]) = [.ok values] ↔ Spells lexemes values := by
  rw [read_append_comma]
  constructor
  · intro accepted
    rcases readUpTo_or_rejects commaFree with ⟨stage, runs, readUpTo⟩ | ⟨fault, onlyFault⟩
    · rw [runs.completed_eq, runs.advance_eq, List.nil_append, Option.toList_eq_singleton_iff]
        at accepted
      obtain ⟨draft, amount, termEnd, rfl⟩ := termEnd?_of_step_comma accepted
      exact readUpTo.spells termEnd
    · rw [onlyFault] at accepted
      cases accepted
  · intro spells
    obtain ⟨next, draft, amount, runs, termEnd, rfl⟩ := spells.runs
    rw [runs.completed_eq, runs.advance_eq, step_comma_of_termEnd? termEnd]
    rfl

/-- At the end of the text the reader also accepts a last sign without its term. -/
theorem read_eq_ok_iff {lexemes : List String} (commaFree : "," ∉ lexemes)
    (values : List Int) :
    read lexemes = [.ok values] ↔ SpellsAtEnd lexemes values := by
  rw [read]
  constructor
  · intro accepted
    rcases readUpTo_or_rejects commaFree with ⟨stage, runs, readUpTo⟩ | ⟨fault, onlyFault⟩
    · rw [runs.completed_eq, runs.advance_eq, List.nil_append, Option.toList_eq_singleton_iff]
        at accepted
      exact readUpTo.spellsAtEnd accepted
    · rw [onlyFault] at accepted
      cases accepted
  · intro spells
    obtain ⟨next, runs, finishes⟩ := spells.runs
    rw [runs.completed_eq, runs.advance_eq, finishes]
    rfl

theorem SpellsAtEnd.read_eq {lexemes : List String} {values : List Int}
    (spells : SpellsAtEnd lexemes values) : read lexemes = [.ok values] :=
  (read_eq_ok_iff spells.commaFree values).mpr spells

theorem exists_slot_read_append_comma {lexemes : List String} (commaFree : "," ∉ lexemes) :
    ∃ slot, read (lexemes ++ [","]) = [slot] := by
  rw [← List.length_eq_one_iff, length_read, afterLastComma_append_comma, List.count_append,
    List.count_eq_zero.mpr commaFree]
  rfl

theorem exists_slot_read {lexemes : List String} (commaFree : "," ∉ lexemes)
    (nonempty : lexemes ≠ []) :
    ∃ slot, read lexemes = [slot] := by
  rw [← List.length_eq_one_iff, length_read, afterLastComma_of_commaFree commaFree,
    if_neg nonempty, List.count_eq_zero.mpr commaFree]

/--
Lexemes without a comma yield the values of the expression that they spell,
before a comma and at the end of the text; what spells none yields one fault.
-/
theorem read_recognizes_grammar (lexemes : List String) (commaFree : "," ∉ lexemes) :
    (∀ values, read (lexemes ++ [","]) = [.ok values] ↔ Spells lexemes values) ∧
      (∀ values, read lexemes = [.ok values] ↔ SpellsAtEnd lexemes values) ∧
      ((¬∃ values, Spells lexemes values) →
        ∃ fault, read (lexemes ++ [","]) = [.error fault]) ∧
      (lexemes ≠ [] → (¬∃ values, SpellsAtEnd lexemes values) →
        ∃ fault, read lexemes = [.error fault]) ∧
      read [] = [] := by
  refine ⟨read_append_comma_eq_ok_iff commaFree, read_eq_ok_iff commaFree, ?_, ?_, read_nil⟩
  · intro spellsNone
    obtain ⟨slot, only⟩ := exists_slot_read_append_comma commaFree
    cases slot with
    | error fault => exact ⟨fault, only⟩
    | ok values =>
        exact absurd ⟨values, (read_append_comma_eq_ok_iff commaFree values).mp only⟩ spellsNone
  · intro nonempty spellsNone
    obtain ⟨slot, only⟩ := exists_slot_read commaFree nonempty
    cases slot with
    | error fault => exact ⟨fault, only⟩
    | ok values => exact absurd ⟨values, (read_eq_ok_iff commaFree values).mp only⟩ spellsNone

/-- A sign after one hour and thirty minutes counts nothing at the end and is a fault before a comma. -/
theorem read_recognizes_trailing_sign :
    "," ∉ ["1", "h", "30", "m", "-"] ∧
      SpellsAtEnd ["1", "h", "30", "m", "-"] [5400000, 0] ∧
      ¬Spells ["1", "h", "30", "m", "-"] [5400000, 0] := by
  have commaFree : "," ∉ ["1", "h", "30", "m", "-"] := by decide
  have recognized := read_recognizes_grammar ["1", "h", "30", "m", "-"] commaFree
  refine ⟨commaFree, (recognized.2.1 _).mp rfl, ?_⟩
  rw [← recognized.1]
  intro accepted
  cases accepted

end DurationCalc.Expression
