import DurationCalc.Rounding
import Mathlib

/-!
# Halves away from zero

An integer near an exact quotient is told without any division: multiplied by the
denominator it lies within half a denominator of the numerator, and if it is exactly
that far away it lies farther from zero. There is one such integer, because of two
that are equally near only one is the outer one, and the rounding of durations finds
it.
-/

namespace DurationCalc

/-- The integer is nearest to the quotient, and the outer one if it is a half away. -/
structure IsNearestAway (numerator : Int) (denominator : Nat) (result : Int) : Prop where
  near : 2 * |result * denominator - numerator| ≤ denominator
  outward : 2 * |result * denominator - numerator| = denominator →
    |numerator| < |result| * denominator

namespace IsNearestAway

variable {numerator first second : Int} {denominator : Nat}

theorem neg (nearest : IsNearestAway numerator denominator first) :
    IsNearestAway (-numerator) denominator (-first) := by
  have mirrored : -first * denominator - -numerator = -(first * denominator - numerator) := by
    rw [Int.neg_mul]
    omega
  constructor
  · rw [mirrored, abs_neg]
    exact nearest.near
  · rw [mirrored, abs_neg, abs_neg, abs_neg]
    exact nearest.outward

theorem not_lt (positive : 0 < denominator) (nearest : IsNearestAway numerator denominator first)
    (other : IsNearestAway numerator denominator second) : ¬first < second := by
  intro below
  have firstNear := neg_abs_le (first * denominator - numerator)
  have secondNear := le_abs_self (second * denominator - numerator)
  have firstHalf := nearest.near
  have secondHalf := other.near
  have regroup : (first + 1) * denominator = first * denominator + denominator := by
    rw [Int.add_mul, Int.one_mul]
  have noneBetween : second * denominator ≤ (first + 1) * denominator := by omega
  have isNext : second = first + 1 :=
    Int.le_antisymm (Int.le_of_mul_le_mul_right noneBetween (by omega)) below
  subst isNext
  -- Both are exactly half a unit away, and the inner one of the two is not farther from zero.
  rcases Int.lt_or_le first 0 with negative | nonneg
  · have outer := other.outward (by omega)
    rw [abs_of_nonpos (by omega : first + 1 ≤ 0), Int.neg_mul] at outer
    have := neg_le_abs numerator
    omega
  · have outer := nearest.outward (by omega)
    rw [abs_of_nonneg nonneg] at outer
    have := le_abs_self numerator
    omega

theorem unique (positive : 0 < denominator) (nearest : IsNearestAway numerator denominator first)
    (other : IsNearestAway numerator denominator second) : first = second :=
  Int.le_antisymm (Int.not_lt.mp (other.not_lt positive nearest))
    (Int.not_lt.mp (nearest.not_lt positive other))

end IsNearestAway

theorem isNearestAway_roundHalfUp {denominator : Nat} (positive : 0 < denominator)
    (numerator : Nat) :
    IsNearestAway numerator denominator (roundHalfUp numerator denominator) := by
  have upper := roundHalfUp_upper numerator denominator
  have lower := roundHalfUp_lower positive numerator
  zify at upper lower
  constructor
  · rcases abs_cases ((roundHalfUp numerator denominator : Int) * denominator - numerator) with
      above | below
    · omega
    · omega
  · intro halfAway
    rw [Nat.abs_cast, Nat.abs_cast]
    rcases abs_cases ((roundHalfUp numerator denominator : Int) * denominator - numerator) with
      above | below
    · omega
    · omega

theorem isNearestAway_roundHalfAway {denominator : Nat} (positive : 0 < denominator)
    (numerator : Int) :
    IsNearestAway numerator denominator (roundHalfAway numerator denominator) := by
  have natural (magnitude : Nat) :
      IsNearestAway magnitude denominator (roundHalfAway magnitude denominator) := by
    rw [roundHalfAway, if_neg (by omega)]
    exact isNearestAway_roundHalfUp positive magnitude
  obtain ⟨magnitude, rfl | rfl⟩ := Int.eq_nat_or_neg numerator
  · exact natural magnitude
  · rw [roundHalfAway_neg]
    exact (natural magnitude).neg

theorem roundHalfAway_eq_iff {denominator : Nat} (positive : 0 < denominator)
    (numerator result : Int) :
    roundHalfAway numerator denominator = result ↔ IsNearestAway numerator denominator result := by
  constructor
  · rintro rfl
    exact isNearestAway_roundHalfAway positive numerator
  · exact (isNearestAway_roundHalfAway positive numerator).unique positive

end DurationCalc
