import DurationCalc.Proofs.CellSums

/-!
# The two operands of differences and ratios

Both functions of two cells read the first cell and then the second one, so their
errors come in that order, and a zero divisor is complained about only if both cells
have a value. The divisor is zero exactly when the signed terms of the cell cancel,
in whatever way they are written, and no other divisor becomes zero as a binary
fraction. Differences are read back from their texts, so that they undo sums as
integers do.
-/

namespace DurationCalc

namespace Binary64

theorem exponentOf_one_le (numerator : Nat) : exponentOf numerator 1 ≤ Nat.log2 numerator := by
  have ofOne : Nat.log2 1 = 0 := by decide
  simp only [exponentOf, leastExponent, ofOne]
  split <;> omega

/-- A positive integer is not scaled below one before it is rounded. -/
theorem shiftFraction_one_bounds {numerator : Nat} (nonzero : numerator ≠ 0) {exponent : Int}
    (atMost : exponent ≤ Nat.log2 numerator) :
    0 < (shiftFraction numerator 1 (-exponent)).2 ∧
      (shiftFraction numerator 1 (-exponent)).2 ≤ (shiftFraction numerator 1 (-exponent)).1 := by
  rw [shiftFraction]
  split
  · have positive : 0 < twoTo (-exponent).toNat := Nat.pow_pos (by decide)
    exact ⟨Nat.one_pos, Nat.mul_pos (Nat.pos_of_ne_zero nonzero) positive⟩
  · have positive : 0 < twoTo (- -exponent).toNat := Nat.pow_pos (by decide)
    have within : (- -exponent).toNat ≤ Nat.log2 numerator := by omega
    have power : twoTo (- -exponent).toNat ≤ numerator :=
      (Nat.pow_le_pow_right (by decide) within).trans (Nat.log2_self_le nonzero)
    rw [Nat.one_mul]
    exact ⟨positive, power⟩

/-- A fraction becomes zero only where its significand is rounded to zero. -/
theorem ofFraction_ne_zero {numerator denominator : Nat} (nonzero : numerator ≠ 0)
    (notRoundedAway : roundHalfEven
      (shiftFraction numerator denominator (-exponentOf numerator denominator)).1
      (shiftFraction numerator denominator (-exponentOf numerator denominator)).2 ≠ 0)
    (negative other : Bool) : ofFraction negative numerator denominator ≠ zero other := by
  rw [ofFraction, if_neg nonzero, zero]
  dsimp only
  generalize roundHalfEven _ _ = rounded at notRoundedAway ⊢
  have significandNonzero :
      (if rounded = significandBound then leastSignificand else rounded) ≠ 0 := by
    split
    · decide
    · exact notRoundedAway
  generalize (if rounded = significandBound then leastSignificand else rounded) = significand
    at significandNonzero ⊢
  generalize (if rounded = significandBound then _ else _) = exponent
  split
  · simp
  · simp [significandNonzero]

theorem ofInt_ne_zero {value : Int} (nonzero : value ≠ 0) (negative : Bool) :
    ofInt value ≠ zero negative := by
  have magnitudeNonzero : value.natAbs ≠ 0 := Int.natAbs_ne_zero.mpr nonzero
  obtain ⟨positive, atLeast⟩ :=
    shiftFraction_one_bounds magnitudeNonzero (exponentOf_one_le value.natAbs)
  -- Rounding stays at or above the whole part of the quotient, which is not zero.
  have atLeastOne := Nat.div_pos atLeast positive
  exact ofFraction_ne_zero magnitudeNonzero
    (Nat.ne_of_gt (atLeastOne.trans_le (roundHalfEven_bounds _ _).1)) _ negative

end Binary64

namespace Cell

open Expression (SpellsAlone)

/-- The first operand has this error, or the second one has it and the first has a value. -/
def OperandsFail (first second : String) (error : CellError) : Prop :=
  millis first = .error error ∨ (∃ amount, millis first = .ok amount) ∧ millis second = .error error

theorem operandsFail_missing_iff (first second : String) :
    OperandsFail first second .missing ↔
      Text.isBlankText first = true ∨
        (∃ amount, millis first = .ok amount) ∧ Text.isBlankText second = true := by
  rw [isBlankText_iff_missing, isBlankText_iff_missing, OperandsFail]

theorem difference_eq_ok_iff (minuend subtrahend text : String) :
    difference minuend subtrahend = .ok text ↔
      ∃ first second, millis minuend = .ok first ∧ millis subtrahend = .ok second ∧
        durationText (first - second) = text := by
  have combined := bind_bind_eq_ok_iff (millis minuend) (millis subtrahend)
    (fun first second => .ok (durationText (first - second))) text
  simp only [Except.ok.injEq] at combined
  exact combined

theorem difference_eq_error_iff (minuend subtrahend : String) (error : CellError) :
    difference minuend subtrahend = .error error ↔ OperandsFail minuend subtrahend error := by
  have combined := bind_bind_eq_error_iff (millis minuend) (millis subtrahend)
    (fun first second => .ok (durationText (first - second))) error
  simp only [reduceCtorEq, and_false, exists_false, or_false] at combined
  exact combined

/-- The ratio of two values, unless the second one is zero. -/
def divided (first second : Int) : Except CellError Binary64 :=
  if second = 0 then .error .zeroDivisor
  else .ok ((Binary64.ofInt first).divide (Binary64.ofInt second))

theorem divided_eq_ok_iff (first second : Int) (quotient : Binary64) :
    divided first second = .ok quotient ↔
      second ≠ 0 ∧ (Binary64.ofInt first).divide (Binary64.ofInt second) = quotient := by
  by_cases isZero : second = 0
  · rw [divided, if_pos isZero]
    simp [isZero]
  · rw [divided, if_neg isZero]
    simp [isZero]

theorem divided_eq_error_iff (first second : Int) (error : CellError) :
    divided first second = .error error ↔ second = 0 ∧ error = .zeroDivisor := by
  by_cases isZero : second = 0
  · rw [divided, if_pos isZero]
    simp [isZero, eq_comm]
  · rw [divided, if_neg isZero]
    simp [isZero]

theorem ratio_eq_ok_iff (dividend divisor : String) (quotient : Binary64) :
    ratio dividend divisor = .ok quotient ↔
      ∃ first second, millis dividend = .ok first ∧ millis divisor = .ok second ∧ second ≠ 0 ∧
        (Binary64.ofInt first).divide (Binary64.ofInt second) = quotient := by
  have combined := bind_bind_eq_ok_iff (millis dividend) (millis divisor) divided quotient
  simp only [divided_eq_ok_iff] at combined
  exact combined

theorem ratio_eq_error_iff (dividend divisor : String) (error : CellError) :
    ratio dividend divisor = .error error ↔
      OperandsFail dividend divisor error ∨
        error = .zeroDivisor ∧ (∃ first, millis dividend = .ok first) ∧ millis divisor = .ok 0 := by
  have combined := bind_bind_eq_error_iff (millis dividend) (millis divisor) divided error
  simp only [divided_eq_error_iff] at combined
  refine combined.trans (or_congr Iff.rfl ?_)
  constructor
  · rintro ⟨first, _, ofFirst, ofSecond, rfl, rfl⟩
    exact ⟨rfl, ⟨first, ofFirst⟩, ofSecond⟩
  · rintro ⟨rfl, ⟨first, ofFirst⟩, ofSecond⟩
    exact ⟨first, 0, ofFirst, ofSecond, rfl, rfl⟩

theorem not_operandsFail_zeroDivisor (first second : String) :
    ¬OperandsFail first second .zeroDivisor := by
  rintro (ofFirst | ⟨-, ofSecond⟩)
  · exact millis_ne_zeroDivisor first ofFirst
  · exact millis_ne_zeroDivisor second ofSecond

/--
Differences and ratios fail with the error of the first operand, or else with that of
the second one, so a duration is missing where one of the two is blank. Where both have
a value there is a difference, and there is a ratio unless the terms of the divisor
cancel. The binary fractions that are divided come from integers of which the second
one is not zero, and neither is its binary fraction.
-/
theorem operands_fail_in_order (first second : String) :
    (∀ error, difference first second = .error error ↔ OperandsFail first second error) ∧
      (∀ text, difference first second = .ok text ↔
        ∃ one other, millis first = .ok one ∧ millis second = .ok other ∧
          durationText (one - other) = text) ∧
      (∀ error, ratio first second = .error error ↔
        OperandsFail first second error ∨
          error = .zeroDivisor ∧ (∃ one, millis first = .ok one) ∧
            ∃ terms, SpellsAlone (Lexeme.split second) terms ∧ terms.sum = 0) ∧
      (ratio first second = .error .zeroDivisor ↔
        (∃ one, millis first = .ok one) ∧
          ∃ terms, SpellsAlone (Lexeme.split second) terms ∧ terms.sum = 0) ∧
      (∀ quotient, ratio first second = .ok quotient ↔
        ∃ one other, millis first = .ok one ∧ millis second = .ok other ∧ other ≠ 0 ∧
          (∀ negative, Binary64.ofInt other ≠ Binary64.zero negative) ∧
          (Binary64.ofInt one).divide (Binary64.ofInt other) = quotient) ∧
      (OperandsFail first second .missing ↔
        Text.isBlankText first = true ∨
          (∃ one, millis first = .ok one) ∧ Text.isBlankText second = true) := by
  refine ⟨difference_eq_error_iff first second, difference_eq_ok_iff first second, ?_, ?_, ?_,
    operandsFail_missing_iff first second⟩
  · intro error
    rw [ratio_eq_error_iff, millis_eq_ok_iff_spellsAlone second]
  · rw [ratio_eq_error_iff, millis_eq_ok_iff_spellsAlone second]
    simp [not_operandsFail_zeroDivisor]
  · intro quotient
    rw [ratio_eq_ok_iff]
    constructor
    · rintro ⟨one, other, ofFirst, ofSecond, nonzero, isQuotient⟩
      exact ⟨one, other, ofFirst, ofSecond, nonzero, Binary64.ofInt_ne_zero nonzero, isQuotient⟩
    · rintro ⟨one, other, ofFirst, ofSecond, nonzero, -, isQuotient⟩
      exact ⟨one, other, ofFirst, ofSecond, nonzero, isQuotient⟩

/-- Terms can cancel, count nothing, or be missing after a sign. -/
example : ["1h-60m", "0d", "+", "5-5,"].all
    (fun divisor => ratio "1h" divisor = .error .zeroDivisor) = true := by decide +kernel

theorem difference_of_values {minuend subtrahend : String} {first second : Int}
    (ofMinuend : millis minuend = .ok first) (ofSubtrahend : millis subtrahend = .ok second) :
    difference minuend subtrahend = .ok (durationText (first - second)) :=
  (difference_eq_ok_iff minuend subtrahend _).mpr ⟨first, second, ofMinuend, ofSubtrahend, rfl⟩

theorem sum_pair_of_values {left right : String} {first second : Int}
    (ofLeft : millis left = .ok first) (ofRight : millis right = .ok second) :
    sum [[left, right]] = .ok (durationText (first + second)) := by
  have haveValues : HaveValues [left, right] [first, second] := .cons ofLeft (.cons ofRight .nil)
  rw [sum_row_of_haveValues haveValues, List.sum_pair]

/--
Sums and differences of two cells undo each other through their texts: the second cell
taken from the sum, or added to the difference, leaves the text of the first one alone.
The difference the other way round is the text of the negative, and the two differences
cancel. Taking a cell and then another one away is taking away their sum.
-/
theorem difference_undoes_sum {minuend subtrahend : String} {first second : Int}
    (ofMinuend : millis minuend = .ok first) (ofSubtrahend : millis subtrahend = .ok second) :
    ∃ alone total rest reversed,
      sum [[minuend]] = .ok alone ∧ sum [[minuend, subtrahend]] = .ok total ∧
        difference minuend subtrahend = .ok rest ∧
        difference subtrahend minuend = .ok reversed ∧
        difference total subtrahend = .ok alone ∧
        sum [[rest, subtrahend]] = .ok alone ∧
        sum [[rest, reversed]] = .ok "000" ∧
        (∃ amount, millis rest = .ok amount ∧ reversed = durationText (-amount) ∧
          millis reversed = .ok (-amount)) ∧
        ∀ (further : String) (third : Int), millis further = .ok third →
          ∃ both remaining, sum [[subtrahend, further]] = .ok both ∧
            difference rest further = .ok remaining ∧
            difference minuend both = .ok remaining := by
  -- Each text that a function returns is a cell with the amount that it was made from.
  have ofText (amount : Int) := millis_durationText amount
  have ofAlone : sum [[minuend]] = .ok (durationText first) := by
    have haveValues : HaveValues [minuend] [first] := .cons ofMinuend .nil
    rw [sum_row_of_haveValues haveValues, List.sum_singleton]
  have undone := difference_of_values (ofText (first + second)) ofSubtrahend
  have restored := sum_pair_of_values (ofText (first - second)) ofSubtrahend
  have cancelled := sum_pair_of_values (ofText (first - second)) (ofText (second - first))
  rw [Int.add_sub_cancel] at undone
  rw [Int.sub_add_cancel] at restored
  have negative : -(first - second) = second - first := Int.neg_sub first second
  have vanishes : first - second + (second - first) = 0 := by omega
  have zeroText : durationText 0 = "000" := by decide +kernel
  rw [vanishes, zeroText] at cancelled
  refine ⟨durationText first, durationText (first + second), durationText (first - second),
    durationText (second - first), ofAlone, sum_pair_of_values ofMinuend ofSubtrahend,
    difference_of_values ofMinuend ofSubtrahend, difference_of_values ofSubtrahend ofMinuend,
    undone, restored, cancelled, ⟨first - second, ofText _, ?_, ?_⟩, ?_⟩
  · rw [negative]
  · rw [negative, ofText]
  · intro further third ofFurther
    have inSteps := difference_of_values (ofText (first - second)) ofFurther
    have atOnce := difference_of_values ofMinuend (ofText (second + third))
    have regroup : first - second - third = first - (second + third) := Int.sub_sub _ _ _
    rw [regroup] at inSteps
    exact ⟨_, _, sum_pair_of_values ofSubtrahend ofFurther, inSteps, atOnce⟩

/-- The terms of the second cell are taken away together, though its minus binds one of them only. -/
theorem difference_undoes_sum_of_several_terms :
    (millis "30s" = .ok 30000 ∧ millis "1m - 5s" = .ok 55000 ∧ millis "2s+" = .ok 2000) ∧
      ∃ alone total rest reversed,
        sum [["30s"]] = .ok alone ∧ sum [["30s", "1m - 5s"]] = .ok total ∧
          difference "30s" "1m - 5s" = .ok rest ∧ difference "1m - 5s" "30s" = .ok reversed ∧
          difference total "1m - 5s" = .ok alone ∧ sum [[rest, "1m - 5s"]] = .ok alone ∧
          sum [[rest, reversed]] = .ok "000" ∧
          ∃ both remaining, sum [["1m - 5s", "2s+"]] = .ok both ∧
            difference rest "2s+" = .ok remaining ∧ difference "30s" both = .ok remaining := by
  have ofMinuend : millis "30s" = .ok 30000 := by decide +kernel
  have ofSubtrahend : millis "1m - 5s" = .ok 55000 := by decide +kernel
  have ofFurther : millis "2s+" = .ok 2000 := by decide +kernel
  obtain ⟨alone, total, rest, reversed, ofAlone, isTotal, isRest, isReversed, undone, restored,
    cancelled, -, stepwise⟩ := difference_undoes_sum ofMinuend ofSubtrahend
  exact ⟨⟨ofMinuend, ofSubtrahend, ofFurther⟩, alone, total, rest, reversed, ofAlone, isTotal,
    isRest, isReversed, undone, restored, cancelled, stepwise "2s+" 2000 ofFurther⟩

example : difference "30s" "1m - 5s" = .ok "-25s" := by decide +kernel

end Cell

end DurationCalc
