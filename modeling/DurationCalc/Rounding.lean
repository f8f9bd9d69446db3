/-!
# Rounding quotients to whole numbers

Two rules round an exact quotient to the nearest whole number. They differ in
what happens at a half: durations go away from zero, so that a text and its
negation stay mirror images, while binary fractions and fixed places go to the
even neighbour.
-/

namespace DurationCalc

/-- The whole number nearest to `numerator / denominator`, a half going up. -/
def roundHalfUp (numerator denominator : Nat) : Nat :=
  (2 * numerator + denominator) / (2 * denominator)

/-- The integer nearest to `numerator / denominator`, a half going away from zero. -/
def roundHalfAway (numerator : Int) (denominator : Nat) : Int :=
  if numerator < 0 then -(roundHalfUp numerator.natAbs denominator : Int)
  else (roundHalfUp numerator.natAbs denominator : Int)

/-- The whole number nearest to `numerator / denominator`, a half going to the even neighbour. -/
def roundHalfEven (numerator denominator : Nat) : Nat :=
  let quotient := numerator / denominator
  let twiceRest := 2 * (numerator % denominator)
  if twiceRest < denominator then quotient
  else if denominator < twiceRest then quotient + 1
  else quotient + quotient % 2

/-- The rounded quotient is at most half a unit too large. -/
theorem roundHalfUp_upper (numerator denominator : Nat) :
    2 * (roundHalfUp numerator denominator * denominator) ≤ 2 * numerator + denominator := by
  have truncated := Nat.div_mul_le_self (2 * numerator + denominator) (2 * denominator)
  have regroup : roundHalfUp numerator denominator * (2 * denominator) =
      2 * (roundHalfUp numerator denominator * denominator) := by
    rw [Nat.mul_left_comm]
  unfold roundHalfUp at regroup ⊢
  omega

/-- The rounded quotient is less than half a unit too small. -/
theorem roundHalfUp_lower {denominator : Nat} (positive : 0 < denominator) (numerator : Nat) :
    2 * numerator < 2 * (roundHalfUp numerator denominator * denominator) + denominator := by
  have truncated := Nat.lt_div_mul_add (a := 2 * numerator + denominator)
    (show 0 < 2 * denominator by omega)
  have regroup : roundHalfUp numerator denominator * (2 * denominator) =
      2 * (roundHalfUp numerator denominator * denominator) := by
    rw [Nat.mul_left_comm]
  unfold roundHalfUp at regroup ⊢
  omega

theorem roundHalfUp_mono {smaller larger : Nat} (ordered : smaller ≤ larger) (denominator : Nat) :
    roundHalfUp smaller denominator ≤ roundHalfUp larger denominator := by
  unfold roundHalfUp
  exact Nat.div_le_div_right (by omega)

theorem roundHalfUp_add_mul {denominator : Nat} (positive : 0 < denominator)
    (numerator units : Nat) :
    roundHalfUp (numerator + units * denominator) denominator =
      roundHalfUp numerator denominator + units := by
  have regroup : 2 * (numerator + units * denominator) + denominator =
      2 * numerator + denominator + units * (2 * denominator) := by
    rw [Nat.mul_add, Nat.mul_left_comm units]
    omega
  rw [roundHalfUp, regroup, Nat.add_mul_div_right _ _ (by omega), roundHalfUp]

/-- A factor that both sides of the quotient have in common does not change the rounding. -/
theorem roundHalfUp_mul_mul {factor : Nat} (positive : 0 < factor)
    (numerator denominator : Nat) :
    roundHalfUp (numerator * factor) (denominator * factor) =
      roundHalfUp numerator denominator := by
  have regroup : 2 * (numerator * factor) + denominator * factor =
      (2 * numerator + denominator) * factor := by
    rw [Nat.add_mul, Nat.mul_assoc]
  rw [roundHalfUp, regroup, ← Nat.mul_assoc, Nat.mul_div_mul_right _ _ positive, roundHalfUp]

/-- The even rule, too, gives one of the two neighbours. -/
theorem roundHalfEven_bounds (numerator denominator : Nat) :
    numerator / denominator ≤ roundHalfEven numerator denominator ∧
      roundHalfEven numerator denominator ≤ numerator / denominator + 1 := by
  unfold roundHalfEven
  dsimp only
  split
  · omega
  · split
    · omega
    · omega

theorem roundHalfAway_neg (numerator : Int) (denominator : Nat) :
    roundHalfAway (-numerator) denominator = -roundHalfAway numerator denominator := by
  unfold roundHalfAway
  rcases Int.lt_trichotomy numerator 0 with negative | rfl | positive
  · rw [if_neg (by omega), if_pos negative, Int.natAbs_neg, Int.neg_neg]
  · by_cases denominatorZero : denominator = 0
    · simp [denominatorZero, roundHalfUp]
    · have vanishes : denominator / (2 * denominator) = 0 := Nat.div_eq_of_lt (by omega)
      simp [roundHalfUp, vanishes]
  · rw [if_pos (by omega), if_neg (by omega), Int.natAbs_neg]

theorem roundHalfAway_mul_mul {factor : Nat} (positive : 0 < factor) (numerator : Int)
    (denominator : Nat) :
    roundHalfAway (numerator * factor) (denominator * factor) =
      roundHalfAway numerator denominator := by
  have scaled : roundHalfUp (numerator * factor).natAbs (denominator * factor) =
      roundHalfUp numerator.natAbs denominator := by
    rw [Int.natAbs_mul, Int.natAbs_natCast, roundHalfUp_mul_mul positive]
  rw [roundHalfAway, scaled, roundHalfAway]
  by_cases negative : numerator < 0
  · have stillNegative : numerator * factor < 0 :=
      Int.mul_neg_of_neg_of_pos negative (by omega)
    rw [if_pos stillNegative, if_pos negative]
  · have stillNonneg : 0 ≤ numerator * factor := Int.mul_nonneg (by omega) (by omega)
    rw [if_neg (by omega), if_neg negative]

end DurationCalc
