import DurationCalc.Proofs.GrammarRecognition
import Mathlib.Order.Bounds.Basic

/-!
# Faults name the first lexeme that does not fit

As long as the lexemes begin some expression the reader raises no fault, for a
fault could still turn out to be wrong. At the first lexeme that cannot continue
them it names that lexeme, with what could have stood there. What the fault says
depends on this lexeme and the one before it alone, and nothing that comes later
changes it.
-/

namespace DurationCalc.Expression

/--
The fault of a lexeme that cannot continue an expression, told from the lexeme
before it, if there is one.
-/
def Fault.ofMisfit (previous : Option String) (lexeme : String) : Fault :=
  if (Sign.ofLexeme? lexeme).isSome then .operatorOutOfPlace lexeme
  else if (TimeUnit.ofToken? lexeme).isSome then
    if previous.any fun earlier => (TimeUnit.ofToken? earlier).isSome then
      .misplaced lexeme .delimiterOrNumber
    else .misplaced lexeme .number
  else if previous.any fun earlier => (Text.numeral? earlier.toList).isSome then
    .misplaced lexeme .unitOrDelimiter
  else .notANumber lexeme

namespace Stage

/-- The reader may be at the stage right after this lexeme, or before any. -/
inductive Follows : Stage → Option String → Prop where
  | nothing : Follows start none
  | sign {draft : Draft} {operator : String} {sign : Sign} :
      Sign.ofLexeme? operator = some sign →
      Follows (beforeNumber draft) (some operator)
  | number {draft : Draft} {whole value : Nat} {numeral : String} :
      Text.numeral? numeral.toList = some value →
      Follows (afterNumber draft whole value) (some numeral)
  | unit {draft : Draft} {whole : Nat} {letter : String} {unit : TimeUnit} :
      TimeUnit.ofToken? letter = some unit →
      Follows (afterUnit draft whole) (some letter)

theorem Moves.follows {stage next : Stage} {lexeme : String}
    (moves : Moves stage lexeme next) : Follows next (some lexeme) := by
  cases moves with
  | firstSign isSign => exact .sign isSign
  | nextSign _ isSign => exact .sign isSign
  | number _ isNumber => exact .number isNumber
  | unit isUnit => exact .unit isUnit

theorem Runs.follows {stage next : Stage} {lexemes : List String} {previous : Option String}
    (runs : Runs stage lexemes next) (follows : Follows stage previous) :
    Follows next (lexemes.getLast?.or previous) := by
  induction runs generalizing previous with
  | done => exact follows
  | @move _ _ _ lexeme later moves _ ih =>
      have lastStays : (lexeme :: later).getLast?.or previous =
          later.getLast?.or (some lexeme) := by
        rw [List.getLast?_cons]
        cases later.getLast? <;> rfl
      rw [lastStays]
      exact ih moves.follows

/-- The fault of a rejected lexeme depends only on it and the lexeme before it. -/
theorem Rejects.fault_eq {stage : Stage} {previous : Option String} {lexeme : String}
    {fault : Fault} (rejects : Rejects stage lexeme fault) (follows : Follows stage previous) :
    fault = .ofMisfit previous lexeme := by
  cases rejects with
  | sign isSign => simp [Fault.ofMisfit, isSign]
  | unitFirst isUnit =>
      have noSign := Token.sign?_of_unit isUnit
      cases follows with
      | nothing => simp [Fault.ofMisfit, noSign, isUnit]
      | sign afterSign =>
          have noUnitBefore := Token.ofToken?_of_sign afterSign
          simp [Fault.ofMisfit, noSign, isUnit, noUnitBefore]
  | secondUnit isUnit =>
      have noSign := Token.sign?_of_unit isUnit
      cases follows with
      | unit afterUnit => simp [Fault.ofMisfit, noSign, isUnit, afterUnit]
  | afterNumber _ noSign noUnit =>
      cases follows with
      | number afterNumber => simp [Fault.ofMisfit, noSign, noUnit, afterNumber]
  | stray termStart _ noSign noUnit =>
      cases follows with
      | nothing => simp [Fault.ofMisfit, noSign, noUnit]
      | sign afterSign =>
          have noNumberBefore := Token.numeral?_of_sign afterSign
          simp [Fault.ofMisfit, noSign, noUnit, noNumberBefore]
      | number => cases termStart
      | unit afterUnit =>
          have noNumberBefore := Token.numeral?_of_ofToken? afterUnit
          simp [Fault.ofMisfit, noSign, noUnit, noNumberBefore]

end Stage

open Stage

theorem Spells.begins {lexemes : List String} {values : List Int}
    (spells : Spells lexemes values) : Begins lexemes :=
  ⟨[], values, by rwa [List.append_nil]⟩

/-- Wherever the reader has come to without a fault, the expression can be completed. -/
theorem ReadUpTo.begins {lexemes : List String} {stage : Stage}
    (readUpTo : ReadUpTo lexemes stage) : Begins lexemes := by
  cases readUpTo with
  | beforeNumber opens =>
      have isNumber : Text.numeral? "0".toList = some 0 := rfl
      exact ⟨["0"], _, opens.spells (.bare isNumber)⟩
  | afterNumber opens spellsPairs isNumber =>
      exact ((ReadUpTo.afterNumber opens spellsPairs isNumber).spells rfl).begins
  | afterUnit opens spellsPairs nonempty =>
      exact ((ReadUpTo.afterUnit opens spellsPairs nonempty).spells rfl).begins

theorem readUpTo_of_runs {lexemes : List String} {stage : Stage}
    (runs : Runs start lexemes stage) : ReadUpTo lexemes stage :=
  (ReadUpTo.beforeNumber .nothing).runs runs

/-- The reader runs through exactly the lexemes that begin an expression. -/
theorem begins_iff_runs (lexemes : List String) :
    Begins lexemes ↔ ∃ stage, Runs start lexemes stage := by
  constructor
  · rintro ⟨later, values, spells⟩
    obtain ⟨next, draft, amount, runs, termEnd, closeEq⟩ := spells.runs
    exact runs.of_append
  · rintro ⟨stage, runs⟩
    exact (readUpTo_of_runs runs).begins

theorem begins_nil : Begins [] :=
  (begins_iff_runs []).mpr ⟨start, .done⟩

theorem Begins.of_append {earlier later : List String} (begins : Begins (earlier ++ later)) :
    Begins earlier := by
  obtain ⟨rest, values, spells⟩ := begins
  exact ⟨later ++ rest, values, by rwa [← List.append_assoc]⟩

/-- What does not begin an expression has a first lexeme at which it stops to. -/
theorem exists_first_misfit {lexemes : List String} (notBegun : ¬Begins lexemes) :
    ∃ before lexeme after, lexemes = before ++ lexeme :: after ∧
      Begins before ∧ ¬Begins (before ++ [lexeme]) := by
  induction lexemes using List.reverseRecOn with
  | nil => exact absurd begins_nil notBegun
  | append_singleton earlier last ih =>
      by_cases begins : Begins earlier
      · exact ⟨earlier, last, [], rfl, begins, notBegun⟩
      · obtain ⟨before, lexeme, after, rfl, beginsBefore, misfits⟩ := ih begins
        exact ⟨before, lexeme, after ++ [last], by simp, beginsBefore, misfits⟩

theorem isLeast_first_misfit {before after : List String} {lexeme : String}
    (begins : Begins before) (misfits : ¬Begins (before ++ [lexeme])) :
    IsLeast {position | ¬Begins ((before ++ lexeme :: after).take (position + 1))}
      before.length := by
  constructor
  · change ¬Begins _
    rwa [List.take_length_add_append]
  · -- Up to any earlier position the lexemes are a part of `before`, which begins an expression.
    intro position notBegun
    by_contra isEarlier
    apply notBegun
    have within : position + 1 ≤ before.length := by omega
    rw [List.take_append_of_le_length within]
    rw [← List.take_append_drop (position + 1) before] at begins
    exact begins.of_append

theorem rejects_first_misfit {before : List String} {lexeme : String} (begins : Begins before)
    (misfits : ¬Begins (before ++ [lexeme])) (notComma : lexeme ≠ ",") :
    ∃ stage, Runs start before stage ∧
      stage.step lexeme = (some (.error (.ofMisfit before.getLast? lexeme)), skipping) := by
  obtain ⟨stage, runs⟩ := (begins_iff_runs before).mp begins
  have follows := runs.follows .nothing
  rw [Option.or_none] at follows
  have live : stage ≠ skipping := by
    rintro rfl
    cases follows
  refine ⟨stage, runs, ?_⟩
  rcases moves_or_rejects live notComma with ⟨next, moves⟩ | ⟨fault, rejects⟩
  · exact absurd ((begins_iff_runs _).mpr ⟨next, runs.append moves.runs⟩) misfits
  · rw [rejects.step_eq, rejects.fault_eq follows]

/-- The fault at the first misfit is all that is read up to the next comma. -/
theorem completed_first_misfit {before other : List String} {lexeme : String}
    (begins : Begins before) (misfits : ¬Begins (before ++ [lexeme]))
    (commaFree : "," ∉ lexeme :: other) :
    start.completed (before ++ lexeme :: other) = [.error (.ofMisfit before.getLast? lexeme)] ∧
      start.advance (before ++ lexeme :: other) = skipping := by
  rw [List.mem_cons, not_or] at commaFree
  obtain ⟨stage, runs, rejects⟩ := rejects_first_misfit begins misfits (Ne.symm commaFree.1)
  have skips := skipping_of_commaFree commaFree.2
  constructor
  · rw [completed_append, runs.completed_eq, runs.advance_eq, completed_cons, rejects, skips.1]
    rfl
  · rw [advance_append, runs.advance_eq, advance_cons, rejects, skips.2]

theorem read_first_misfit {before other : List String} {lexeme : String}
    (begins : Begins before) (misfits : ¬Begins (before ++ [lexeme]))
    (commaFree : "," ∉ lexeme :: other) (rest : List String) :
    read (before ++ lexeme :: other) = [.error (.ofMisfit before.getLast? lexeme)] ∧
      read (before ++ lexeme :: other ++ [","] ++ rest) =
        .error (.ofMisfit before.getLast? lexeme) :: read rest := by
  obtain ⟨onlyFault, skips⟩ := completed_first_misfit begins misfits commaFree
  constructor
  · rw [read, onlyFault, skips]
    rfl
  · rw [read_append_comma_append, read_append_comma, onlyFault, skips]
    rfl

theorem read_append_comma_of_begins {lexemes : List String} (begins : Begins lexemes)
    (spellsNone : ¬∃ values, Spells lexemes values) :
    read (lexemes ++ [","]) = [.error (.operatorOutOfPlace ",")] := by
  obtain ⟨stage, runs⟩ := (begins_iff_runs lexemes).mp begins
  have readUpTo := readUpTo_of_runs runs
  rw [read_append_comma, runs.completed_eq, runs.advance_eq]
  -- Where a term may end an expression has been spelled, so a number was due.
  cases stage with
  | beforeNumber draft => rfl
  | afterNumber draft whole number => exact absurd ⟨_, readUpTo.spells rfl⟩ spellsNone
  | afterUnit draft whole => exact absurd ⟨_, readUpTo.spells rfl⟩ spellsNone
  | skipping => cases readUpTo

/--
Lexemes that begin no expression yield the fault of the first one that cannot
continue those before it, at the end of the text and before a comma, whatever
follows it. Lexemes that begin an expression but spell none yield a fault that
names the comma after them.
-/
theorem read_names_first_misfit (lexemes : List String) (commaFree : "," ∉ lexemes) :
    (¬Begins lexemes →
      ∃ before lexeme after,
        lexemes = before ++ lexeme :: after ∧
          IsLeast {position | ¬Begins (lexemes.take (position + 1))} before.length ∧
          read lexemes = [.error (.ofMisfit before.getLast? lexeme)] ∧
          read (lexemes ++ [","]) = [.error (.ofMisfit before.getLast? lexeme)] ∧
          ∀ other rest, "," ∉ other →
            read (before ++ lexeme :: other) = [.error (.ofMisfit before.getLast? lexeme)] ∧
              read (before ++ lexeme :: other ++ [","] ++ rest) =
                .error (.ofMisfit before.getLast? lexeme) :: read rest) ∧
      (Begins lexemes → (¬∃ values, Spells lexemes values) →
        read (lexemes ++ [","]) = [.error (.operatorOutOfPlace ",")]) := by
  refine ⟨?_, read_append_comma_of_begins⟩
  intro notBegun
  obtain ⟨before, lexeme, after, rfl, begins, misfits⟩ := exists_first_misfit notBegun
  rw [List.mem_append, not_or] at commaFree
  have alone := read_first_misfit begins misfits commaFree.2 []
  rw [List.append_nil, read_nil] at alone
  refine ⟨before, lexeme, after, rfl, isLeast_first_misfit begins misfits, alone.1, alone.2, ?_⟩
  intro other rest otherCommaFree
  have notComma : "," ≠ lexeme := fun isComma => commaFree.2 (isComma ▸ List.mem_cons_self)
  exact read_first_misfit begins misfits
    (List.not_mem_cons_of_ne_of_not_mem notComma otherCommaFree) rest

/-- Of two units in a row the second is the first misfit, and the stray lexeme after it is not named. -/
theorem read_names_second_unit :
    "," ∉ ["1", "h", "D", "+", "x"] ∧ ¬Begins ["1", "h", "D", "+", "x"] ∧
      ∃ before lexeme after,
        ["1", "h", "D", "+", "x"] = before ++ lexeme :: after ∧
          IsLeast {position | ¬Begins (["1", "h", "D", "+", "x"].take (position + 1))}
            before.length ∧
          read ["1", "h", "D", "+", "x"] = [.error (.ofMisfit before.getLast? lexeme)] := by
  have commaFree : "," ∉ ["1", "h", "D", "+", "x"] := by decide
  have notBegun : ¬Begins ["1", "h", "D", "+", "x"] := by
    rw [begins_iff_runs]
    rintro ⟨stage, runs⟩
    cases runs.completed_eq
  obtain ⟨before, lexeme, after, parts, first, atEnd, -⟩ :=
    (read_names_first_misfit ["1", "h", "D", "+", "x"] commaFree).1 notBegun
  exact ⟨commaFree, notBegun, before, lexeme, after, parts, first, atEnd⟩

end DurationCalc.Expression
