import DurationCalc.Proofs.FirstMisfit

/-!
# Reading while the text is typed

The lexemes of a text may be read again each time that some are added at the end.
What was read before a comma is final then, and so is every fault. The expression
under way may go on: its finished terms stay, and only its last term may still
change. A fault is never raised too early, for as long as there is none the
lexemes can be continued to an expression.
-/

namespace DurationCalc.Expression

namespace Stage

/-- The values of the terms that are finished in the expression under way, in order. -/
def finishedTerms : Stage → List Int
  | beforeNumber draft => draft.finished.reverse
  | afterNumber draft _ _ => draft.finished.reverse
  | afterUnit draft _ => draft.finished.reverse
  | skipping => []

theorem finishedTerms_of_termStart? {stage : Stage} {draft : Draft} {whole : Nat}
    (termStart : stage.termStart? = some (draft, whole)) :
    stage.finishedTerms = draft.finished.reverse := by
  cases stage <;> cases termStart <;> rfl

theorem finishedTerms_of_termEnd? {stage : Stage} {draft : Draft} {amount : Nat}
    (termEnd : stage.termEnd? = some (draft, amount)) :
    stage.finishedTerms = draft.finished.reverse := by
  cases stage <;> cases termEnd <;> rfl

/-- A lexeme that continues the expression keeps the finished terms, and a sign adds one. -/
theorem Moves.finishedTerms_prefix {stage next : Stage} {lexeme : String}
    (moves : Moves stage lexeme next) : stage.finishedTerms <+: next.finishedTerms := by
  cases moves with
  | firstSign => exact List.nil_prefix
  | nextSign termEnd =>
      rw [finishedTerms_of_termEnd? termEnd, finishedTerms, Draft.next, List.reverse_cons]
      exact List.prefix_append _ _
  | number termStart =>
      rw [finishedTerms_of_termStart? termStart]
      exact List.prefix_rfl
  | unit => exact List.prefix_rfl

theorem dropLast_of_finish {stage : Stage} {values : List Int}
    (finishes : stage.finish = some (.ok values)) : values.dropLast = stage.finishedTerms := by
  cases stage with
  | beforeNumber draft =>
      rw [finish] at finishes
      split at finishes
      · cases finishes
      · cases finishes
        simp [Draft.close_eq, finishedTerms]
  | afterNumber draft whole number =>
      cases finishes
      simp [Draft.close_eq, finishedTerms]
  | afterUnit draft whole =>
      cases finishes
      simp [Draft.close_eq, finishedTerms]
  | skipping => cases finishes

theorem finish_ne_error (stage : Stage) (fault : Fault) : stage.finish ≠ some (.error fault) := by
  cases stage with
  | beforeNumber draft =>
      rw [finish]
      split <;> simp
  | afterNumber => simp [finish]
  | afterUnit => simp [finish]
  | skipping => simp [finish]

theorem finishedTerms_prefix_of_step_comma {stage : Stage} {values : List Int}
    (yields : (stage.step ",").1 = some (.ok values)) : stage.finishedTerms <+: values := by
  obtain ⟨draft, amount, termEnd, rfl⟩ := termEnd?_of_step_comma yields
  rw [finishedTerms_of_termEnd? termEnd, Draft.close_eq]
  exact List.prefix_append _ _

theorem exists_step_comma {stage : Stage} (live : stage ≠ skipping) :
    ∃ slot, (stage.step ",").1 = some slot := by
  cases stage with
  | skipping => exact absurd rfl live
  | _ => exact ⟨_, rfl⟩

/-- The slots that lexemes yield from a stage on. -/
def readOn (stage : Stage) (lexemes : List String) : List Slot :=
  stage.completed lexemes ++ (stage.advance lexemes).finish.toList

theorem readOn_cons (stage : Stage) (lexeme : String) (later : List String) :
    stage.readOn (lexeme :: later) =
      (stage.step lexeme).1.toList ++ (stage.step lexeme).2.readOn later := by
  rw [readOn, completed_cons, advance_cons, List.append_assoc, readOn]

/--
The finished terms are the first ones of the expression under way, whatever
lexemes come, unless they make it a fault.
-/
theorem finishedTerms_prefix_of_readOn {stage : Stage} {lexemes : List String}
    {values : List Int} (live : stage ≠ skipping)
    (first : (stage.readOn lexemes).head? = some (.ok values)) :
    stage.finishedTerms <+: values := by
  induction lexemes generalizing stage with
  | nil =>
      rw [readOn, completed_nil, List.nil_append, advance_nil, Option.head?_toList] at first
      rw [← dropLast_of_finish first]
      exact List.dropLast_prefix values
  | cons lexeme later ih =>
      rw [readOn_cons] at first
      by_cases isComma : lexeme = ","
      · subst isComma
        obtain ⟨slot, yields⟩ := exists_step_comma live
        rw [yields] at first
        cases first
        exact finishedTerms_prefix_of_step_comma yields
      · rcases moves_or_rejects live isComma with ⟨next, moves⟩ | ⟨fault, rejects⟩
        · rw [moves.step_eq] at first
          exact moves.finishedTerms_prefix.trans (ih moves.next_ne_skipping first)
        · rw [rejects.step_eq] at first
          cases first

end Stage

open Stage

theorem read_append_eq_readOn (first second : List String) :
    read (first ++ second) =
      start.completed first ++ (start.advance first).readOn second :=
  read_append first second

theorem messages_append (slots later : List Slot) :
    messages (slots ++ later) = messages slots ++ messages later :=
  List.filterMap_append

theorem messages_finish (stage : Stage) : messages stage.finish.toList = [] := by
  cases finishes : stage.finish with
  | none => rfl
  | some slot =>
      cases slot with
      | ok values => rfl
      | error fault => exact absurd finishes (stage.finish_ne_error fault)

/--
The later slots keep what the earlier ones have settled, where so many
expressions were closed by a comma.
-/
structure Keeps (closed : Nat) (slots later : List Slot) : Prop where
  messages_prefix : messages slots <+: messages later
  /-- The slot of a closed expression is there and is final. -/
  closed_eq : ∀ position < closed,
    ∃ slot, slots[position]? = some slot ∧ later[position]? = some slot
  /-- A fault in the expression under way is final. -/
  fault_eq : ∀ fault, slots[closed]? = some (.error fault) → later[closed]? = some (.error fault)
  /-- Of the expression under way all terms but the last one are final. -/
  terms_prefix : ∀ values more, slots[closed]? = some (.ok values) →
    later[closed]? = some (.ok more) → values.dropLast <+: more

theorem keeps_append {closed : Nat} {slots : List Slot} (enough : closed < slots.length)
    (added : List Slot) : Keeps closed slots (slots ++ added) where
  messages_prefix := by
    rw [messages_append]
    exact List.prefix_append _ _
  closed_eq := by
    intro position before
    have within : position < slots.length := by omega
    refine ⟨slots[position], List.getElem?_eq_getElem within, ?_⟩
    rw [List.getElem?_append_left within, List.getElem?_eq_getElem within]
  fault_eq := by
    intro fault isFault
    rwa [List.getElem?_append_left enough]
  terms_prefix := by
    intro values more isThere laterThere
    rw [List.getElem?_append_left enough, isThere] at laterThere
    cases laterThere
    exact List.dropLast_prefix values

/-- The slot of the expression under way may be followed up, as it is no fault. -/
theorem keeps_readOn {closedSlots : List Slot} {stage : Stage} (live : stage ≠ skipping)
    (later : List String) :
    Keeps closedSlots.length (closedSlots ++ stage.finish.toList)
      (closedSlots ++ stage.readOn later) where
  messages_prefix := by
    rw [messages_append, messages_append, messages_finish, List.append_nil]
    exact List.prefix_append _ _
  closed_eq := by
    intro position before
    refine ⟨closedSlots[position], ?_, ?_⟩
    · rw [List.getElem?_append_left before, List.getElem?_eq_getElem before]
    · rw [List.getElem?_append_left before, List.getElem?_eq_getElem before]
  fault_eq := by
    intro fault isFault
    rw [List.getElem?_append_right (Nat.le_refl _), Nat.sub_self, ← List.head?_eq_getElem?,
      Option.head?_toList] at isFault
    exact absurd isFault (stage.finish_ne_error fault)
  terms_prefix := by
    intro values more isThere laterThere
    rw [List.getElem?_append_right (Nat.le_refl _), Nat.sub_self, ← List.head?_eq_getElem?]
      at isThere laterThere
    rw [Option.head?_toList] at isThere
    rw [dropLast_of_finish isThere]
    exact finishedTerms_prefix_of_readOn live laterThere

theorem keeps_read_append (first second : List String) :
    Keeps (first.count ",") (read first) (read (first ++ second)) := by
  have handedOut := length_completed_add_delivered start first
  have atStart : start.delivered = 0 := rfl
  by_cases skips : start.advance first = skipping
  · -- The expression under way was given up, so its slot has been handed out with the others.
    have onlyCompleted : read first = start.completed first := by
      rw [read, skips]
      exact List.append_nil _
    rw [read_append_eq_readOn, ← onlyCompleted]
    apply keeps_append
    have oneMore : skipping.delivered = 1 := rfl
    rw [skips] at handedOut
    rw [onlyCompleted]
    omega
  · rw [delivered_of_ne_skipping skips] at handedOut
    have allClosed : first.count "," = (start.completed first).length := by omega
    rw [read_append_eq_readOn, allClosed, read]
    exact keeps_readOn skips second

theorem exists_completion {lexemes : List String} (commaFree : "," ∉ lexemes)
    (noFault : hasFault (read lexemes) = false) :
    ∃ later values, "," ∉ later ∧ read (lexemes ++ later ++ [","]) = [.ok values] := by
  rcases readUpTo_or_rejects commaFree with ⟨stage, runs, readUpTo⟩ | ⟨fault, onlyFault⟩
  · obtain ⟨later, values, spells⟩ := readUpTo.begins
    have allCommaFree := spells.commaFree
    exact ⟨later, values, fun isThere => allCommaFree (List.mem_append_right _ isThere),
      (read_append_comma_eq_ok_iff allCommaFree values).mpr spells⟩
  · rw [read, onlyFault] at noFault
    cases noFault

/--
However a list of lexemes goes on, it keeps what was read of it; and where it
raised no fault, it can go on to an expression.
-/
theorem read_stable_while_typing (first second : List String) :
    Keeps (first.count ",") (read first) (read (first ++ second)) ∧
      ("," ∉ first → hasFault (read first) = false →
        ∃ later values, "," ∉ later ∧ read (first ++ later ++ [","]) = [.ok values]) :=
  ⟨keeps_read_append first second, exists_completion⟩

/-- After a sign the last term counts zero for the time being; the one before it stays. -/
theorem read_stable_after_sign :
    "," ∉ ["1", "h", "-"] ∧ hasFault (read ["1", "h", "-"]) = false ∧
      read ["1", "h", "-"] = [.ok [3600000, 0]] ∧
      read ["1", "h", "-", "30", "m", ",", "x"] =
        [.ok [3600000, -1800000], .error (.notANumber "x")] ∧
      Keeps 0 (read ["1", "h", "-"]) (read ["1", "h", "-", "30", "m", ",", "x"]) ∧
      ∃ later values, "," ∉ later ∧ read (["1", "h", "-"] ++ later ++ [","]) = [.ok values] := by
  have commaFree : "," ∉ ["1", "h", "-"] := by decide
  have noFault : hasFault (read ["1", "h", "-"]) = false := rfl
  have stable := read_stable_while_typing ["1", "h", "-"] ["30", "m", ",", "x"]
  exact ⟨commaFree, noFault, rfl, rfl, stable.1, stable.2 commaFree noFault⟩

end DurationCalc.Expression
