import DurationCalc.Proofs.CanonicalReading
import DurationCalc.Proofs.TotalDrift

/-!
# Terms and their negations

The milliseconds of counts below zero mirror those above, but the choice of a
count does not: a number midway between the values of two neighbouring counts goes
to the higher one on either side of zero. So a term and its negation cancel unless
the term is such a midpoint, and then they leave one quantum.
-/

namespace DurationCalc

open Expression (SpellsTerm SpellsSigned Spells Sign)

namespace Rate

/-- The number lies exactly midway between the values of two neighbouring counts. -/
def IsMidpoint (rate : Rate) (millis : Int) : Prop :=
  ∃ count, rate.millisAt count + rate.millisAt (count + 1) = 2 * millis

/-- No neighbours are in question but the two that enclose the number. -/
theorem isMidpoint_iff (rate : Rate) (millis : Int) :
    rate.IsMidpoint millis ↔
      rate.millisAt (rate.countBelow millis) + rate.millisAt (rate.countBelow millis + 1) =
        2 * millis := by
  constructor
  · rintro ⟨count, midway⟩
    have apart := rate.millisAt_lt_millisAt_succ count
    have belowLe := rate.millisAt_countBelow_le millis
    have leAbove := rate.le_millisAt_countBelow_succ millis
    have notHigher : rate.countBelow millis < count + 1 :=
      rate.millisAt_strictMono.lt_iff_lt.mp (by omega)
    have notLower : count < rate.countBelow millis + 1 :=
      rate.millisAt_strictMono.lt_iff_lt.mp (by omega)
    have isBelow : rate.countBelow millis = count := by omega
    rwa [isBelow]
  · intro midway
    exact ⟨rate.countBelow millis, midway⟩

instance (rate : Rate) (millis : Int) : Decidable (rate.IsMidpoint millis) :=
  decidable_of_iff _ (rate.isMidpoint_iff millis).symm

theorem countAt_of_nearer_below {rate : Rate} {millis : Int} (below : Int)
    (belowLe : rate.millisAt below ≤ millis)
    (nearer : 2 * millis < rate.millisAt below + rate.millisAt (below + 1)) :
    rate.countAt millis = below :=
  (rate.countAt_eq_iff millis below).mpr (isClosestCount_lower belowLe (by omega))

theorem countAt_of_nearer_above {rate : Rate} {millis : Int} (below : Int)
    (leAbove : millis ≤ rate.millisAt (below + 1))
    (asNear : rate.millisAt below + rate.millisAt (below + 1) ≤ 2 * millis) :
    rate.countAt millis = below + 1 :=
  (rate.countAt_eq_iff millis (below + 1)).mpr (isClosestCount_upper leAbove (by omega))

theorem countAt_add_countAt_neg (rate : Rate) (millis : Int) :
    rate.countAt millis + rate.countAt (-millis) = if rate.IsMidpoint millis then 1 else 0 := by
  have belowLe := rate.millisAt_countBelow_le millis
  have leAbove := rate.le_millisAt_countBelow_succ millis
  have midpointIff := rate.isMidpoint_iff millis
  generalize rate.countBelow millis = below at belowLe leAbove midpointIff
  -- The counts around the negated number are the negations of these two in reverse order.
  have mirroredBelow : rate.millisAt (-(below + 1)) = -rate.millisAt (below + 1) :=
    rate.millisAt_neg (below + 1)
  have mirroredAbove : rate.millisAt (-(below + 1) + 1) = -rate.millisAt below := by
    rw [show -(below + 1) + 1 = -below by omega, millisAt_neg]
  rcases lt_trichotomy (rate.millisAt below + rate.millisAt (below + 1)) (2 * millis) with
    nearerAbove | midway | nearerBelow
  · rw [if_neg (mt midpointIff.mp nearerAbove.ne),
      countAt_of_nearer_above below leAbove nearerAbove.le,
      countAt_of_nearer_below (-(below + 1)) (by omega) (by omega)]
    omega
  · rw [if_pos (midpointIff.mpr midway), countAt_of_nearer_above below leAbove midway.le,
      countAt_of_nearer_above (-(below + 1)) (by omega) (by omega)]
    omega
  · rw [if_neg (mt midpointIff.mp nearerBelow.ne'),
      countAt_of_nearer_below below belowLe nearerBelow,
      countAt_of_nearer_above (-(below + 1)) (by omega) (by omega)]
    omega

end Rate

theorem count_total_add_count_total_neg (terms : List Int) (rate : Rate) :
    (total terms rate).count + (total (terms.map fun term => -term) rate).count =
      terms.countP fun term => decide (rate.IsMidpoint term) := by
  induction terms with
  | nil => rfl
  | cons term later ih =>
      have step := rate.countAt_add_countAt_neg term
      rw [List.map_cons, count_total_cons, count_total_cons, Span.count_convert_ofMillis,
        Span.count_convert_ofMillis, List.countP_cons]
      by_cases isMidpoint : rate.IsMidpoint term
      · rw [if_pos isMidpoint] at step
        rw [if_pos (decide_eq_true isMidpoint)]
        omega
      · rw [if_neg isMidpoint] at step
        rw [if_neg (by simpa using isMidpoint)]
        omega

theorem total_minus_self (term : Int) (rate : Rate) :
    total [term, -term] rate = ⟨if rate.IsMidpoint term then 1 else 0, rate⟩ := by
  rw [total_eq_sum, List.map_cons, List.map_singleton, List.sum_pair,
    Rate.countAt_add_countAt_neg]

theorem Expression.SpellsTerm.spells_minus_self {term : List String} {amount : Nat}
    (spells : SpellsTerm term amount) :
    Spells (term ++ "-" :: term) [(amount : Int), -(amount : Int)] := by
  have isSign : Sign.ofLexeme? "-" = some .minus := rfl
  have subtracted := SpellsSigned.next isSign spells .done
  simpa using Spells.unsigned spells subtracted

/-- A term with its own text taken from it is read as two terms. -/
theorem slotsOf_minus_self {text : String} {amount : Nat}
    (spells : SpellsTerm (Lexeme.split text) amount) :
    slotsOf (text ++ " - " ++ text) = [.ok [(amount : Int), -(amount : Int)]] := by
  have closeTogether : slotsOf (text ++ " - " ++ text) = slotsOf (text ++ "-" ++ text) := by
    apply slotsOf_eq_of_strip_eq
    simp only [String.toList_append, Text.strip_append]
    rfl
  have isDelimiter : Lexeme.isDelimiter '-' = true := rfl
  have cut : Lexeme.split (text ++ "-" ++ text) =
      Lexeme.split text ++ "-" :: Lexeme.split text :=
    Lexeme.split_append_delimiter isDelimiter text text
  rw [closeTogether, slotsOf, cut]
  exact Expression.SpellsAtEnd.read_eq (.complete spells.spells_minus_self)

/--
The total of the terms and that of their negations differ from opposites by the
number of terms that are midpoints. So what is taken from itself comes to nothing,
or to one quantum if it is a midpoint, and so does the text of a term.
-/
theorem total_neg_asymmetry_eq_midpoints (rate : Rate) :
    (∀ terms : List Int,
      (total terms rate).count + (total (terms.map fun term => -term) rate).count =
        terms.countP fun term => decide (rate.IsMidpoint term)) ∧
      (∀ term : Int, total [term, -term] rate =
        ⟨if rate.IsMidpoint term then 1 else 0, rate⟩) ∧
      ∀ (text : String) (amount : Nat), SpellsTerm (Lexeme.split text) amount →
        evaluate (text ++ " - " ++ text) rate =
          [.ok ⟨if rate.IsMidpoint amount then 1 else 0, rate⟩] := by
  refine ⟨fun terms => count_total_add_count_total_neg terms rate,
    fun term => total_minus_self term rate, ?_⟩
  intro text amount spells
  have sameTotal := total_minus_self amount rate
  rw [evaluate, slotsOf_minus_self spells, values, List.map_singleton]
  exact congrArg (fun span => [Except.ok span]) sameTotal

/-- At 400 quanta per second four milliseconds lie midway between three and five. -/
theorem total_neg_asymmetry_of_four_millis :
    SpellsTerm (Lexeme.split "4") 4 ∧
      evaluate ("4" ++ " - " ++ "4") ⟨400, by decide, by decide⟩ =
        [.ok ⟨1, ⟨400, by decide, by decide⟩⟩] := by
  have spells : SpellsTerm (Lexeme.split "4") 4 := .bare rfl
  have evaluated := (total_neg_asymmetry_eq_midpoints ⟨400, by decide, by decide⟩).2.2 "4" 4 spells
  have isMidpoint : Rate.IsMidpoint ⟨400, by decide, by decide⟩ (4 : Nat) := by decide
  rw [if_pos isMidpoint] at evaluated
  exact ⟨spells, evaluated⟩

/-- So does minus four, while minus three is the value of minus one. -/
example : total [-4, 4] ⟨400, by decide, by decide⟩ = ⟨1, ⟨400, by decide, by decide⟩⟩ ∧
    total [-3, 3] ⟨400, by decide, by decide⟩ = ⟨0, ⟨400, by decide, by decide⟩⟩ := by decide

end DurationCalc
