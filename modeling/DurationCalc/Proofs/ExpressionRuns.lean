import DurationCalc.Expression.Reader

/-!
# Runs inside one expression

Between two commas the reader moves on from lexeme to lexeme without handing out
a slot, until it gives the expression up, hands out one fault and skips the rest.
This file lists the ways to move on, shows that a lexeme which allows none of
them ends in a fault, and carries both from one lexeme to a list of them.
-/

namespace DurationCalc.Expression

namespace Stage

/-- Where a number may come: the draft, and the amount of the term so far. -/
def termStart? : Stage → Option (Draft × Nat)
  | beforeNumber draft => some (draft, 0)
  | afterUnit draft whole => some (draft, whole)
  | afterNumber .. => none
  | skipping => none

theorem termStart?_beforeNumber (draft : Draft) :
    (beforeNumber draft).termStart? = some (draft, 0) :=
  rfl

theorem termStart?_afterUnit (draft : Draft) (whole : Nat) :
    (afterUnit draft whole).termStart? = some (draft, whole) :=
  rfl

/-- Where a term may end: the draft, and the amount of the term if it ends here. -/
def termEnd? : Stage → Option (Draft × Nat)
  | beforeNumber _ => none
  | afterNumber draft whole number => some (draft, whole + number)
  | afterUnit draft whole => some (draft, whole)
  | skipping => none

/-- The lexeme continues the expression under way, and leads to the next stage. -/
inductive Moves : Stage → String → Stage → Prop where
  | firstSign {operator : String} {sign : Sign} :
      Sign.ofLexeme? operator = some sign →
      Moves start operator (beforeNumber { sign := some sign })
  | nextSign {stage : Stage} {draft : Draft} {amount : Nat} {operator : String} {sign : Sign} :
      stage.termEnd? = some (draft, amount) →
      Sign.ofLexeme? operator = some sign →
      Moves stage operator (beforeNumber (draft.next amount sign))
  | number {stage : Stage} {draft : Draft} {whole value : Nat} {numeral : String} :
      stage.termStart? = some (draft, whole) →
      Text.numeral? numeral.toList = some value →
      Moves stage numeral (afterNumber draft whole value)
  | unit {draft : Draft} {whole number : Nat} {letter : String} {unit : TimeUnit} :
      TimeUnit.ofToken? letter = some unit →
      Moves (afterNumber draft whole number) letter
        (afterUnit draft (whole + number * unit.millis))

theorem Moves.step_eq {stage next : Stage} {lexeme : String}
    (moves : Moves stage lexeme next) : stage.step lexeme = (none, next) := by
  cases moves with
  | firstSign isSign =>
      rw [← Token.ofLexeme_eq_sign_iff] at isSign
      simp [step, start, isSign, Draft.isFresh]
  | nextSign termEnd isSign =>
      rw [← Token.ofLexeme_eq_sign_iff] at isSign
      cases stage <;> simp_all [step, termEnd?]
  | number termStart isNumber =>
      rw [← Token.ofLexeme_eq_number_iff] at isNumber
      cases stage <;> simp_all [step, termStart?]
  | unit isUnit =>
      rw [← Token.ofLexeme_eq_unit_iff] at isUnit
      simp [step, isUnit]

/-- The lexeme cannot continue the expression under way, which is given up with this fault. -/
inductive Rejects : Stage → String → Fault → Prop where
  | sign {draft : Draft} {operator : String} {sign : Sign} :
      Sign.ofLexeme? operator = some sign →
      draft.isFresh = false →
      Rejects (beforeNumber draft) operator (.operatorOutOfPlace operator)
  | unitFirst {draft : Draft} {letter : String} {unit : TimeUnit} :
      TimeUnit.ofToken? letter = some unit →
      Rejects (beforeNumber draft) letter (.misplaced letter .number)
  | secondUnit {draft : Draft} {whole : Nat} {letter : String} {unit : TimeUnit} :
      TimeUnit.ofToken? letter = some unit →
      Rejects (afterUnit draft whole) letter (.misplaced letter .delimiterOrNumber)
  | afterNumber {draft : Draft} {whole number : Nat} {lexeme : String} :
      lexeme ≠ "," →
      Sign.ofLexeme? lexeme = none →
      TimeUnit.ofToken? lexeme = none →
      Rejects (afterNumber draft whole number) lexeme (.misplaced lexeme .unitOrDelimiter)
  | stray {stage : Stage} {draft : Draft} {whole : Nat} {lexeme : String} :
      stage.termStart? = some (draft, whole) →
      lexeme ≠ "," →
      Sign.ofLexeme? lexeme = none →
      TimeUnit.ofToken? lexeme = none →
      Text.numeral? lexeme.toList = none →
      Rejects stage lexeme (.notANumber lexeme)

theorem Rejects.step_eq {stage : Stage} {lexeme : String} {fault : Fault}
    (rejects : Rejects stage lexeme fault) :
    stage.step lexeme = (some (.error fault), skipping) := by
  cases rejects with
  | sign isSign underWay =>
      rw [← Token.ofLexeme_eq_sign_iff] at isSign
      simp [step, isSign, underWay, reject]
  | unitFirst isUnit =>
      rw [← Token.ofLexeme_eq_unit_iff] at isUnit
      simp [step, isUnit, reject]
  | secondUnit isUnit =>
      rw [← Token.ofLexeme_eq_unit_iff] at isUnit
      simp [step, isUnit, reject]
  | afterNumber notComma noSign noUnit =>
      have token := Token.ofLexeme_of_remaining notComma noSign noUnit
      cases isNumber : Text.numeral? lexeme.toList <;> simp [step, token, isNumber, reject]
  | stray termStart notComma noSign noUnit noNumber =>
      have token := Token.ofLexeme_of_remaining notComma noSign noUnit
      rw [noNumber] at token
      cases stage <;> simp_all [step, reject, termStart?]

/-- A lexeme other than the comma continues the expression, or the expression is given up. -/
theorem moves_or_rejects {stage : Stage} {lexeme : String}
    (live : stage ≠ skipping) (notComma : lexeme ≠ ",") :
    (∃ next, Moves stage lexeme next) ∨ ∃ fault, Rejects stage lexeme fault := by
  cases isSign : Sign.ofLexeme? lexeme with
  | some sign =>
      cases stage with
      | beforeNumber draft =>
          cases fresh : draft.isFresh with
          | true =>
              rw [(draft.isFresh_iff).mp fresh]
              exact .inl ⟨_, .firstSign isSign⟩
          | false => exact .inr ⟨_, .sign isSign fresh⟩
      | afterNumber draft whole number => exact .inl ⟨_, .nextSign rfl isSign⟩
      | afterUnit draft whole => exact .inl ⟨_, .nextSign rfl isSign⟩
      | skipping => exact absurd rfl live
  | none =>
      cases isUnit : TimeUnit.ofToken? lexeme with
      | some unit =>
          cases stage with
          | beforeNumber draft => exact .inr ⟨_, .unitFirst isUnit⟩
          | afterNumber draft whole number => exact .inl ⟨_, .unit isUnit⟩
          | afterUnit draft whole => exact .inr ⟨_, .secondUnit isUnit⟩
          | skipping => exact absurd rfl live
      | none =>
          cases isNumber : Text.numeral? lexeme.toList with
          | some value =>
              cases stage with
              | beforeNumber draft => exact .inl ⟨_, .number rfl isNumber⟩
              | afterNumber draft whole number =>
                  exact .inr ⟨_, .afterNumber notComma isSign isUnit⟩
              | afterUnit draft whole => exact .inl ⟨_, .number rfl isNumber⟩
              | skipping => exact absurd rfl live
          | none =>
              cases stage with
              | beforeNumber draft =>
                  exact .inr ⟨_, .stray rfl notComma isSign isUnit isNumber⟩
              | afterNumber draft whole number =>
                  exact .inr ⟨_, .afterNumber notComma isSign isUnit⟩
              | afterUnit draft whole =>
                  exact .inr ⟨_, .stray rfl notComma isSign isUnit isNumber⟩
              | skipping => exact absurd rfl live

theorem Moves.next_ne_skipping {stage next : Stage} {lexeme : String}
    (moves : Moves stage lexeme next) : next ≠ skipping := by
  cases moves <;> simp

theorem Moves.next_ne_start {stage next : Stage} {lexeme : String}
    (moves : Moves stage lexeme next) : next ≠ start := by
  cases moves <;> simp [start, Draft.next]

@[simp] theorem step_comma_snd (stage : Stage) : (stage.step ",").2 = start := by
  cases stage <;> rfl

theorem Moves.ne_comma {stage next : Stage} {lexeme : String}
    (moves : Moves stage lexeme next) : lexeme ≠ "," := by
  rintro rfl
  have atStart := step_comma_snd stage
  rw [moves.step_eq] at atStart
  exact moves.next_ne_start atStart

theorem step_comma_of_termEnd? {stage : Stage} {draft : Draft} {amount : Nat}
    (termEnd : stage.termEnd? = some (draft, amount)) :
    (stage.step ",").1 = some (.ok (draft.close amount)) := by
  cases stage <;> cases termEnd <;> rfl

theorem finish_of_termEnd? {stage : Stage} {draft : Draft} {amount : Nat}
    (termEnd : stage.termEnd? = some (draft, amount)) :
    stage.finish = some (.ok (draft.close amount)) := by
  cases stage <;> cases termEnd <;> rfl

theorem step_skipping {lexeme : String} (notComma : lexeme ≠ ",") :
    skipping.step lexeme = (none, skipping) := by
  cases token : Token.ofLexeme lexeme with
  | comma => exact absurd ((Token.ofLexeme_eq_comma_iff lexeme).mp token) notComma
  | sign => simp [step, token]
  | unit => simp [step, token]
  | number => simp [step, token]
  | stray => simp [step, token]

/-- The lexemes continue the expression under way, one after the other. -/
inductive Runs : Stage → List String → Stage → Prop where
  | done {stage : Stage} : Runs stage [] stage
  | move {stage middle next : Stage} {lexeme : String} {later : List String} :
      Moves stage lexeme middle →
      Runs middle later next →
      Runs stage (lexeme :: later) next

theorem Moves.runs {stage next : Stage} {lexeme : String}
    (moves : Moves stage lexeme next) : Runs stage [lexeme] next :=
  .move moves .done

theorem Runs.append {first middle last : Stage} {earlier later : List String}
    (runs : Runs first earlier middle) (runsOn : Runs middle later last) :
    Runs first (earlier ++ later) last := by
  induction runs with
  | done => exact runsOn
  | move moves _ ih => exact .move moves (ih runsOn)

theorem Runs.of_append {first last : Stage} {earlier later : List String}
    (runs : Runs first (earlier ++ later) last) : ∃ middle, Runs first earlier middle := by
  induction earlier generalizing first with
  | nil => exact ⟨first, .done⟩
  | cons lexeme rest ih =>
      cases runs with
      | move moves runsOn =>
          obtain ⟨middle, runsRest⟩ := ih runsOn
          exact ⟨middle, .move moves runsRest⟩

theorem Runs.advance_eq {stage next : Stage} {lexemes : List String}
    (runs : Runs stage lexemes next) : stage.advance lexemes = next := by
  induction runs with
  | done => rfl
  | move moves _ ih => rw [advance_cons, moves.step_eq, ih]

theorem Runs.completed_eq {stage next : Stage} {lexemes : List String}
    (runs : Runs stage lexemes next) : stage.completed lexemes = [] := by
  induction runs with
  | done => rfl
  | move moves _ ih => rw [completed_cons, moves.step_eq, ih]; rfl

theorem Runs.commaFree {stage next : Stage} {lexemes : List String}
    (runs : Runs stage lexemes next) : "," ∉ lexemes := by
  induction runs with
  | done => exact List.not_mem_nil
  | move moves _ ih => exact List.not_mem_cons_of_ne_of_not_mem moves.ne_comma.symm ih

/-- Nothing more comes of an expression that was given up. -/
theorem skipping_of_commaFree {lexemes : List String} (commaFree : "," ∉ lexemes) :
    skipping.completed lexemes = [] ∧ skipping.advance lexemes = skipping := by
  induction lexemes with
  | nil => exact ⟨rfl, rfl⟩
  | cons lexeme later ih =>
      rw [List.mem_cons, not_or] at commaFree
      rw [completed_cons, advance_cons, step_skipping (Ne.symm commaFree.1)]
      exact ih commaFree.2

/-- Lexemes without a comma run through, or they hand out one fault and the rest is skipped. -/
theorem runs_or_rejects {stage : Stage} {lexemes : List String}
    (live : stage ≠ skipping) (commaFree : "," ∉ lexemes) :
    (∃ next, Runs stage lexemes next) ∨
      ∃ fault, stage.completed lexemes = [.error fault] ∧
        stage.advance lexemes = skipping := by
  induction lexemes generalizing stage with
  | nil => exact .inl ⟨stage, .done⟩
  | cons lexeme later ih =>
      rw [List.mem_cons, not_or] at commaFree
      rcases moves_or_rejects live (Ne.symm commaFree.1) with ⟨middle, moves⟩ | ⟨fault, rejects⟩
      · rcases ih moves.next_ne_skipping commaFree.2 with ⟨next, runs⟩ | ⟨fault, onlyFault, skips⟩
        · exact .inl ⟨next, .move moves runs⟩
        · refine .inr ⟨fault, ?_, ?_⟩
          · rw [completed_cons, moves.step_eq, onlyFault]
            rfl
          · rw [advance_cons, moves.step_eq, skips]
      · have skips := skipping_of_commaFree commaFree.2
        refine .inr ⟨fault, ?_, ?_⟩
        · rw [completed_cons, rejects.step_eq, skips.1]
          rfl
        · rw [advance_cons, rejects.step_eq, skips.2]

end Stage

end DurationCalc.Expression
