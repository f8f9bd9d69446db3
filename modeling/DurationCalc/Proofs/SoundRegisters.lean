import DurationCalc.Expression.Registers
import DurationCalc.Proofs.LiveTyping

/-!
# Which registers are filled when

What the reader with registers waits for tells which of its registers are filled, and
an expression that was given up has its fault in the last slot. Every step keeps this,
so it holds after any lexemes whatever. It follows that a unit always finds a number
pending, that no expression is empty and that the sign register decides the sign of a
term. With it the registers stand for a stage of the reader, and their slots are those
that the reader hands out.
-/

namespace DurationCalc.Expression

namespace Registers

/-- The registers are filled as it should be after lexemes with so many commas. -/
structure Sound (commas : Nat) (registers : Registers) : Prop where
  beforeNumber : registers.awaited = some .number →
    registers.total = none ∧ registers.pending = none
  afterNumber : registers.awaited = some .unitOrDelimiter →
    ∃ number, registers.pending = some number
  afterUnit : registers.awaited = some .delimiterOrNumber →
    registers.pending = none ∧ ∃ amount, registers.total = some amount
  /-- Only a sign comes after a finished term. -/
  signed : registers.awaited ≠ none → registers.terms ≠ [] → ∃ sign, registers.sign = some sign
  total_nonneg : ∀ amount ∈ registers.total, 0 ≤ amount
  pending_nonneg : ∀ number ∈ registers.pending, 0 ≤ number
  /-- The expression that is skipped has handed out its fault. -/
  skipping : registers.awaited = none →
    ∃ earlier fault, registers.slots = earlier ++ [.error fault]
  length_slots : registers.slots.length = commas + if registers.awaited = none then 1 else 0
  terms_nonempty : ∀ values, .ok values ∈ registers.slots → values ≠ []

theorem sound_start : Sound 0 {} where
  beforeNumber := fun _ => ⟨rfl, rfl⟩
  afterNumber := by rintro ⟨⟩
  afterUnit := by rintro ⟨⟩
  signed := fun _ nonempty => absurd rfl nonempty
  total_nonneg := by rintro _ ⟨⟩
  pending_nonneg := by rintro _ ⟨⟩
  skipping := by rintro ⟨⟩
  length_slots := rfl
  terms_nonempty := by rintro _ ⟨⟩

namespace Sound

variable {commas : Nat} {registers : Registers}

theorem length_slots_of_live (sound : Sound commas registers) (live : registers.awaited ≠ none) :
    registers.slots.length = commas := by
  rw [sound.length_slots, if_neg live, Nat.add_zero]

theorem fail (sound : Sound commas registers) (live : registers.awaited ≠ none) (fault : Fault) :
    Sound commas (registers.fail fault) where
  beforeNumber := by rintro ⟨⟩
  afterNumber := by rintro ⟨⟩
  afterUnit := by rintro ⟨⟩
  signed := fun notSkipping => absurd rfl notSkipping
  total_nonneg := sound.total_nonneg
  pending_nonneg := sound.pending_nonneg
  skipping := fun _ => ⟨registers.slots, fault, rfl⟩
  length_slots := by
    rw [Registers.fail, List.length_append, sound.length_slots_of_live live]
    rfl
  terms_nonempty := by
    intro values isThere
    rcases List.mem_append.mp isThere with before | last
    · exact sound.terms_nonempty values before
    · simp at last

/-- Empty registers are in order if the slots are. -/
theorem of_slots {slots : List Slot} (enough : slots.length = commas)
    (termsNonempty : ∀ values, .ok values ∈ slots → values ≠ []) :
    Sound commas { slots } where
  beforeNumber := fun _ => ⟨rfl, rfl⟩
  afterNumber := by rintro ⟨⟩
  afterUnit := by rintro ⟨⟩
  signed := fun _ nonempty => absurd rfl nonempty
  total_nonneg := by rintro _ ⟨⟩
  pending_nonneg := by rintro _ ⟨⟩
  skipping := by rintro ⟨⟩
  length_slots := enough
  terms_nonempty := termsNonempty

/-- The comma after an expression that was given up. -/
theorem reset (sound : Sound commas registers) (skips : registers.awaited = none) :
    Sound (commas + 1) registers.reset := by
  apply of_slots
  · rw [sound.length_slots, if_pos skips]
  · exact sound.terms_nonempty

theorem closeExpression_nonempty (sound : Sound commas registers) :
    ∀ values, .ok values ∈ registers.closeExpression.slots → values ≠ [] := by
  intro values isThere
  rcases List.mem_append.mp isThere with before | last
  · exact sound.terms_nonempty values before
  · simp only [List.mem_singleton, Except.ok.injEq] at last
    simp [last, closeTerm]

/-- The comma after an expression that was completed. -/
theorem closeExpression_reset (sound : Sound commas registers)
    (live : registers.awaited ≠ none) :
    Sound (commas + 1) registers.closeExpression.reset := by
  apply of_slots
  · rw [closeExpression, List.length_append, sound.length_slots_of_live live]
    rfl
  · exact sound.closeExpression_nonempty

theorem firstSign (sound : Sound commas registers) (awaits : registers.awaited = some .number)
    (sign : Sign) :
    Sound commas { registers with awaited := some .number, sign := some sign } where
  beforeNumber := fun _ => sound.beforeNumber awaits
  afterNumber := by rintro ⟨⟩
  afterUnit := by rintro ⟨⟩
  signed := fun _ _ => ⟨sign, rfl⟩
  total_nonneg := sound.total_nonneg
  pending_nonneg := sound.pending_nonneg
  skipping := by rintro ⟨⟩
  length_slots := sound.length_slots_of_live (by simp [awaits])
  terms_nonempty := sound.terms_nonempty

theorem nextSign (sound : Sound commas registers) (live : registers.awaited ≠ none)
    (sign : Sign) :
    Sound commas { registers.closeTerm with awaited := some .number, sign := some sign } where
  beforeNumber := fun _ => ⟨rfl, rfl⟩
  afterNumber := by rintro ⟨⟩
  afterUnit := by rintro ⟨⟩
  signed := fun _ _ => ⟨sign, rfl⟩
  total_nonneg := by rintro _ ⟨⟩
  pending_nonneg := by rintro _ ⟨⟩
  skipping := by rintro ⟨⟩
  length_slots := sound.length_slots_of_live live
  terms_nonempty := sound.terms_nonempty

theorem getD_total_nonneg (sound : Sound commas registers) : 0 ≤ registers.total.getD 0 := by
  cases isTotal : registers.total with
  | none => exact Int.le_refl 0
  | some amount => exact sound.total_nonneg amount isTotal

theorem getD_pending_nonneg (sound : Sound commas registers) : 0 ≤ registers.pending.getD 0 := by
  cases isPending : registers.pending with
  | none => exact Int.le_refl 0
  | some number => exact sound.pending_nonneg number isPending

theorem takeUnit (sound : Sound commas registers) (live : registers.awaited ≠ none)
    (unit : TimeUnit) : Sound commas (registers.takeUnit unit) where
  beforeNumber := by rintro ⟨⟩
  afterNumber := by rintro ⟨⟩
  afterUnit := fun _ => ⟨rfl, _, rfl⟩
  signed := fun _ => sound.signed live
  total_nonneg := by
    rintro _ ⟨⟩
    exact Int.add_nonneg sound.getD_total_nonneg
      (Int.mul_nonneg sound.getD_pending_nonneg (Int.natCast_nonneg _))
  pending_nonneg := by rintro _ ⟨⟩
  skipping := by rintro ⟨⟩
  length_slots := sound.length_slots_of_live live
  terms_nonempty := sound.terms_nonempty

theorem takeNumber (sound : Sound commas registers) (live : registers.awaited ≠ none)
    (value : Nat) :
    Sound commas { registers with awaited := some .unitOrDelimiter, pending := some value } where
  beforeNumber := by rintro ⟨⟩
  afterNumber := fun _ => ⟨value, rfl⟩
  afterUnit := by rintro ⟨⟩
  signed := fun _ => sound.signed live
  total_nonneg := sound.total_nonneg
  pending_nonneg := by
    rintro _ ⟨⟩
    exact Int.natCast_nonneg value
  skipping := by rintro ⟨⟩
  length_slots := sound.length_slots_of_live live
  terms_nonempty := sound.terms_nonempty

/-- Every lexeme leaves the registers in order, wherever it comes. -/
theorem step (sound : Sound commas registers) (lexeme : String) :
    Sound (commas + if lexeme = "," then 1 else 0) (registers.step lexeme) := by
  simp only [← Token.ofLexeme_eq_comma_iff]
  unfold Registers.step
  cases awaits : registers.awaited with
  | none =>
      cases Token.ofLexeme lexeme with
      | comma => exact sound.reset awaits
      | sign => exact sound
      | unit => exact sound
      | number => exact sound
      | stray => exact sound
  | some expected =>
      have live : registers.awaited ≠ none := by simp [awaits]
      cases Token.ofLexeme lexeme with
      | comma =>
          cases expected with
          | number => exact (sound.fail live _).reset rfl
          | unitOrDelimiter => exact sound.closeExpression_reset live
          | delimiterOrNumber => exact sound.closeExpression_reset live
      | sign sign =>
          cases expected with
          | number =>
              dsimp only
              by_cases fresh : registers.isFresh = true
              · rw [if_pos fresh]
                exact sound.firstSign awaits sign
              · rw [if_neg fresh]
                exact sound.fail live _
          | unitOrDelimiter => exact sound.nextSign live sign
          | delimiterOrNumber => exact sound.nextSign live sign
      | unit unit =>
          cases expected with
          | number => exact sound.fail live _
          | unitOrDelimiter => exact sound.takeUnit live unit
          | delimiterOrNumber => exact sound.fail live _
      | number value =>
          cases expected with
          | number => exact sound.takeNumber live value
          | unitOrDelimiter => exact sound.fail live _
          | delimiterOrNumber => exact sound.takeNumber live value
      | stray =>
          cases expected with
          | number => exact sound.fail live _
          | unitOrDelimiter => exact sound.fail live _
          | delimiterOrNumber => exact sound.fail live _

/-- A term is negative only if its sign says so. -/
theorem term_sign (sound : Sound commas registers) :
    (registers.sign = some .minus → registers.term ≤ 0) ∧
      (registers.sign ≠ some .minus → 0 ≤ registers.term) := by
  have totalNonneg := sound.getD_total_nonneg
  have pendingNonneg := sound.getD_pending_nonneg
  constructor
  · intro isMinus
    rw [term, if_pos isMinus]
    omega
  · intro notMinus
    rw [term, if_neg notMinus]
    omega

end Sound

/-- After any lexemes the registers are in order. -/
theorem sound_after (lexemes : List String) : Sound (lexemes.count ",") (after lexemes) := by
  induction lexemes using List.reverseRecOn with
  | nil => exact sound_start
  | append_singleton earlier last ih =>
      have stepped := ih.step last
      rw [after_append_singleton, List.count_append, List.count_singleton]
      simpa using stepped

/-- What the registers say of the finished terms and of the sign. -/
def draft (registers : Registers) : Draft where
  finished := registers.terms.reverse
  sign := registers.sign

/-- The stage of the reader that the registers stand for. -/
def stage (registers : Registers) : Stage :=
  match registers.awaited with
  | none => .skipping
  | some .number => .beforeNumber registers.draft
  | some .unitOrDelimiter =>
      .afterNumber registers.draft (registers.total.getD 0).toNat (registers.pending.getD 0).toNat
  | some .delimiterOrNumber => .afterUnit registers.draft (registers.total.getD 0).toNat

/-- The registers step to the stage that theirs steps to, and get the slots that it hands out. -/
def StepsAsStage (registers : Registers) (lexeme : String) : Prop :=
  (registers.step lexeme).stage = (registers.stage.step lexeme).2 ∧
    (registers.step lexeme).slots = registers.slots ++ (registers.stage.step lexeme).1.toList

namespace Sound

variable {commas : Nat} {registers : Registers}

theorem term_eq (sound : Sound commas registers) :
    registers.term = Sign.apply registers.sign
      ((registers.total.getD 0).toNat + (registers.pending.getD 0).toNat) := by
  have totalNonneg := sound.getD_total_nonneg
  have pendingNonneg := sound.getD_pending_nonneg
  rw [term, Sign.apply]
  push_cast
  rw [Int.toNat_of_nonneg totalNonneg, Int.toNat_of_nonneg pendingNonneg]

theorem closeTerm_terms (sound : Sound commas registers) :
    registers.closeTerm.terms = registers.draft.close
      ((registers.total.getD 0).toNat + (registers.pending.getD 0).toNat) := by
  rw [Draft.close_eq, draft, List.reverse_reverse, closeTerm, sound.term_eq]

theorem isFresh_eq (sound : Sound commas registers) (awaits : registers.awaited = some .number) :
    registers.isFresh = registers.draft.isFresh := by
  obtain ⟨noTotal, noPending⟩ := sound.beforeNumber awaits
  simp [isFresh, Draft.isFresh, draft, noTotal, noPending]

/-- The amount of the term under way, as the stage counts it. -/
theorem toNat_takeUnit_total (sound : Sound commas registers) (unit : TimeUnit) :
    ((registers.takeUnit unit).total.getD 0).toNat =
      (registers.total.getD 0).toNat + (registers.pending.getD 0).toNat * unit.millis := by
  obtain ⟨amount, isAmount⟩ := Int.eq_ofNat_of_zero_le sound.getD_total_nonneg
  obtain ⟨number, isNumber⟩ := Int.eq_ofNat_of_zero_le sound.getD_pending_nonneg
  rw [Registers.takeUnit, Option.getD_some, isAmount, isNumber]
  norm_cast

/-- A sign closes the term and starts the next one. -/
theorem draft_nextSign (sound : Sound commas registers) (sign : Sign) :
    ({ registers.closeTerm with awaited := some .number, sign := some sign } : Registers).draft =
      registers.draft.next
        ((registers.total.getD 0).toNat + (registers.pending.getD 0).toNat) sign := by
  have closed := congrArg List.reverse sound.closeTerm_terms
  rw [Draft.close, List.reverse_reverse] at closed
  rw [draft, closed, Draft.next]

theorem stepsAsStage_skipping (awaits : registers.awaited = none) (lexeme : String) :
    registers.StepsAsStage lexeme := by
  have isStage : registers.stage = .skipping := by rw [stage, awaits]
  unfold StepsAsStage Registers.step Stage.step
  rw [awaits, isStage]
  cases Token.ofLexeme lexeme with
  | comma => exact ⟨rfl, (List.append_nil _).symm⟩
  | sign => exact ⟨isStage, (List.append_nil _).symm⟩
  | unit => exact ⟨isStage, (List.append_nil _).symm⟩
  | number => exact ⟨isStage, (List.append_nil _).symm⟩
  | stray => exact ⟨isStage, (List.append_nil _).symm⟩

theorem stepsAsStage_beforeNumber (sound : Sound commas registers)
    (awaits : registers.awaited = some .number) (lexeme : String) :
    registers.StepsAsStage lexeme := by
  have isStage : registers.stage = .beforeNumber registers.draft := by rw [stage, awaits]
  obtain ⟨noTotal, noPending⟩ := sound.beforeNumber awaits
  unfold StepsAsStage Registers.step Stage.step
  rw [awaits, isStage]
  cases Token.ofLexeme lexeme with
  | comma => exact ⟨rfl, rfl⟩
  | sign sign =>
      dsimp only
      rw [sound.isFresh_eq awaits]
      cases fresh : registers.draft.isFresh with
      | true =>
          have nothing := (registers.draft.isFresh_iff).mp fresh
          have noTerms : registers.terms.reverse = [] := congrArg Draft.finished nothing
          refine ⟨?_, (List.append_nil _).symm⟩
          exact congrArg (fun finished => Stage.beforeNumber ⟨finished, some sign⟩) noTerms
      | false => exact ⟨rfl, rfl⟩
  | unit => exact ⟨rfl, rfl⟩
  | number value =>
      refine ⟨?_, (List.append_nil _).symm⟩
      rw [stage, noTotal]
      rfl
  | stray => exact ⟨rfl, rfl⟩

theorem stepsAsStage_afterNumber (sound : Sound commas registers)
    (awaits : registers.awaited = some .unitOrDelimiter) (lexeme : String) :
    registers.StepsAsStage lexeme := by
  have isStage : registers.stage = .afterNumber registers.draft
      (registers.total.getD 0).toNat (registers.pending.getD 0).toNat := by
    rw [stage, awaits]
  unfold StepsAsStage Registers.step Stage.step
  rw [awaits, isStage]
  cases Token.ofLexeme lexeme with
  | comma =>
      dsimp only
      rw [← sound.closeTerm_terms]
      exact ⟨rfl, rfl⟩
  | sign sign =>
      exact ⟨congrArg Stage.beforeNumber (sound.draft_nextSign sign), (List.append_nil _).symm⟩
  | unit unit =>
      exact ⟨congrArg (Stage.afterUnit registers.draft) (sound.toNat_takeUnit_total unit),
        (List.append_nil _).symm⟩
  | number => exact ⟨rfl, rfl⟩
  | stray => exact ⟨rfl, rfl⟩

theorem stepsAsStage_afterUnit (sound : Sound commas registers)
    (awaits : registers.awaited = some .delimiterOrNumber) (lexeme : String) :
    registers.StepsAsStage lexeme := by
  have isStage : registers.stage =
      .afterUnit registers.draft (registers.total.getD 0).toNat := by
    rw [stage, awaits]
  have noPending := (sound.afterUnit awaits).1
  have closed := sound.closeTerm_terms
  have nextDraft := sound.draft_nextSign
  rw [noPending] at closed nextDraft
  unfold StepsAsStage Registers.step Stage.step
  rw [awaits, isStage]
  cases Token.ofLexeme lexeme with
  | comma =>
      refine ⟨rfl, ?_⟩
      exact congrArg (fun terms => registers.slots ++ [.ok terms]) closed
  | sign sign => exact ⟨congrArg Stage.beforeNumber (nextDraft sign), (List.append_nil _).symm⟩
  | unit => exact ⟨rfl, rfl⟩
  | number => exact ⟨rfl, (List.append_nil _).symm⟩
  | stray => exact ⟨rfl, rfl⟩

theorem stepsAsStage (sound : Sound commas registers) (lexeme : String) :
    registers.StepsAsStage lexeme := by
  cases awaits : registers.awaited with
  | none => exact stepsAsStage_skipping awaits lexeme
  | some expected =>
      cases expected with
      | number => exact sound.stepsAsStage_beforeNumber awaits lexeme
      | unitOrDelimiter => exact sound.stepsAsStage_afterNumber awaits lexeme
      | delimiterOrNumber => exact sound.stepsAsStage_afterUnit awaits lexeme

/-- The registers close the expression that their stage would close, if there is one. -/
theorem finish_eq (sound : Sound commas registers) :
    registers.finish = registers.slots ++ registers.stage.finish.toList := by
  have closed := sound.closeTerm_terms
  unfold finish stage Stage.finish
  cases awaits : registers.awaited with
  | none => exact (List.append_nil _).symm
  | some expected =>
      cases expected with
      | number =>
          obtain ⟨noTotal, noPending⟩ := sound.beforeNumber awaits
          rw [noTotal, noPending] at closed
          simp only [reduceCtorEq, true_and, false_or, sound.isFresh_eq awaits]
          split
          · exact (List.append_nil _).symm
          · exact congrArg (fun terms => registers.slots ++ [.ok terms]) closed
      | unitOrDelimiter =>
          exact congrArg (fun terms => registers.slots ++ [.ok terms]) closed
      | delimiterOrNumber =>
          rw [(sound.afterUnit awaits).1] at closed
          exact congrArg (fun terms => registers.slots ++ [.ok terms]) closed

theorem finish_nonempty (sound : Sound commas registers) :
    ∀ values, .ok values ∈ registers.finish → values ≠ [] := by
  unfold finish
  split
  · exact sound.terms_nonempty
  · exact sound.closeExpression_nonempty

/-- A unit is given to a number that has come. -/
theorem step_unit (sound : Sound commas registers)
    (awaits : registers.awaited = some .unitOrDelimiter) {letter : String} {unit : TimeUnit}
    (isUnit : TimeUnit.ofToken? letter = some unit) :
    ∃ number, registers.pending = some number ∧
      (registers.step letter).total =
        some (registers.total.getD 0 + number * unit.millis) := by
  obtain ⟨number, isPending⟩ := sound.afterNumber awaits
  refine ⟨number, isPending, ?_⟩
  rw [← Token.ofLexeme_eq_unit_iff] at isUnit
  unfold Registers.step
  rw [awaits, isUnit]
  dsimp only [Registers.takeUnit]
  rw [isPending, Option.getD_some]

end Sound

/-- After any lexemes the registers stand for the stage of the reader, and have its slots. -/
theorem stage_after (lexemes : List String) :
    (after lexemes).stage = Stage.start.advance lexemes ∧
      (after lexemes).slots = Stage.start.completed lexemes := by
  induction lexemes using List.reverseRecOn with
  | nil => exact ⟨rfl, rfl⟩
  | append_singleton earlier last ih =>
      obtain ⟨stageEq, slotsEq⟩ := ih
      obtain ⟨nextStage, nextSlots⟩ := (sound_after earlier).stepsAsStage last
      rw [stageEq] at nextStage nextSlots
      rw [after_append_singleton, Stage.advance_append, Stage.completed_append]
      refine ⟨nextStage, ?_⟩
      rw [nextSlots, slotsEq, Stage.completed_cons, Stage.completed_nil, List.append_nil]

theorem finish_after (lexemes : List String) : (after lexemes).finish = read lexemes := by
  obtain ⟨stageEq, slotsEq⟩ := stage_after lexemes
  rw [(sound_after lexemes).finish_eq, stageEq, slotsEq, read]

/--
After any lexemes what is awaited tells which registers are filled, no amount is
negative, and there is a slot for each comma and one more for an expression that
is skipped. So a unit always finds its number, every expression has a term, and
the sign register decides on which side of zero the term under way is. The slots
that the registers end with are those of the reader.
-/
theorem after_in_order (lexemes : List String) :
    Sound (lexemes.count ",") (after lexemes) ∧
      (∀ letter unit, (after lexemes).awaited = some .unitOrDelimiter →
        TimeUnit.ofToken? letter = some unit →
        ∃ number, (after lexemes).pending = some number ∧
          ((after lexemes).step letter).total =
            some ((after lexemes).total.getD 0 + number * unit.millis)) ∧
      (∀ values, .ok values ∈ (after lexemes).finish → values ≠ []) ∧
      ((after lexemes).sign = some .minus → (after lexemes).term ≤ 0) ∧
      ((after lexemes).sign ≠ some .minus → 0 ≤ (after lexemes).term) ∧
      (after lexemes).finish = read lexemes := by
  have sound := sound_after lexemes
  obtain ⟨ofMinus, otherwise⟩ := sound.term_sign
  refine ⟨sound, ?_, sound.finish_nonempty, ofMinus, otherwise, finish_after lexemes⟩
  intro letter unit awaits isUnit
  exact sound.step_unit awaits isUnit

/-- The number after the minus is pending when its unit comes, and the hour is a term already. -/
theorem after_minus_number_in_order :
    (after [",", "1", "h", "-", "30"]).awaited = some .unitOrDelimiter ∧
      TimeUnit.ofToken? "m" = some .minute ∧
      Sound 1 (after [",", "1", "h", "-", "30"]) ∧
      (after [",", "1", "h", "-", "30"]).terms = [3600000] ∧
      (∃ number, (after [",", "1", "h", "-", "30"]).pending = some number ∧
        (after [",", "1", "h", "-", "30", "m"]).total = some (0 + number * 60000)) ∧
      (after [",", "1", "h", "-", "30"]).term ≤ 0 := by
  have awaits : (after [",", "1", "h", "-", "30"]).awaited = some .unitOrDelimiter := rfl
  have isUnit : TimeUnit.ofToken? "m" = some .minute := rfl
  obtain ⟨sound, takesUnit, -, ofMinus, -, -⟩ := after_in_order [",", "1", "h", "-", "30"]
  exact ⟨awaits, isUnit, sound, rfl, takesUnit "m" .minute awaits isUnit, ofMinus rfl⟩

end Registers

end DurationCalc.Expression
