import DurationCalc.Proofs.NearestAway
import DurationCalc.Span

/-!
# The grid of millisecond values

The millisecond values of the counts at one rate form a grid. The value of a
count is computed by cutting off twice, once to tenths and once to whole
milliseconds, but it is the exact quotient rounded once. Two neighbouring counts
never share a value, because a rate has at most a thousand quanta per second.
-/

namespace DurationCalc

namespace Rate

theorem perSecond_pos (rate : Rate) : 0 < rate.perSecond :=
  rate.one_le_perSecond

/-- Cutting the quotient to tenths loses nothing that the five tenths could carry over. -/
theorem div_tenths_add_five {perSecond : Nat} (positive : 0 < perSecond) (count : Nat) :
    (10000 * count / perSecond + 5) / 10 = roundHalfUp (1000 * count) perSecond := by
  calc (10000 * count / perSecond + 5) / 10
      = (10000 * count + 5 * perSecond) / perSecond / 10 := by
        rw [Nat.add_mul_div_right _ _ positive]
    _ = 5 * (2 * (1000 * count) + perSecond) / (5 * (2 * perSecond)) := by
        rw [Nat.div_div_eq_div_mul]
        congr 1 <;> omega
    _ = roundHalfUp (1000 * count) perSecond :=
        Nat.mul_div_mul_left _ _ (by decide)

theorem millisAt_natCast (rate : Rate) (count : Nat) :
    rate.millisAt count = roundHalfUp (1000 * count) rate.perSecond := by
  have tenths : rate.tenthsAt count = ((10000 * count / rate.perSecond : Nat) : Int) := by
    rw [tenthsAt, Int.ofNat_tdiv]
    norm_cast
  rw [millisAt, if_neg (by omega), tenths, ← div_tenths_add_five rate.perSecond_pos,
    Int.ofNat_tdiv]
  norm_cast

theorem tenthsAt_neg (rate : Rate) (count : Int) :
    rate.tenthsAt (-count) = -rate.tenthsAt count := by
  rw [tenthsAt, Int.mul_neg, Int.neg_tdiv, tenthsAt]

@[simp] theorem millisAt_zero (rate : Rate) : rate.millisAt 0 = 0 := by
  simp [millisAt, tenthsAt]

theorem millisAt_neg (rate : Rate) (count : Int) :
    rate.millisAt (-count) = -rate.millisAt count := by
  rcases Int.lt_trichotomy count 0 with negative | rfl | positive
  · rw [millisAt, millisAt, tenthsAt_neg, if_neg (by omega), if_pos negative, ← Int.neg_tdiv]
    congr 1
    omega
  · simp
  · rw [millisAt, millisAt, tenthsAt_neg, if_pos (by omega), if_neg (by omega), ← Int.neg_tdiv]
    congr 1
    omega

/-- The two cuts amount to one rounding of the exact quotient. -/
theorem millisAt_eq_roundHalfAway (rate : Rate) (count : Int) :
    rate.millisAt count = roundHalfAway (1000 * count) rate.perSecond := by
  have natural (magnitude : Nat) :
      rate.millisAt magnitude = roundHalfAway (1000 * magnitude) rate.perSecond := by
    rw [millisAt_natCast, roundHalfAway, if_neg (by omega)]
    rfl
  obtain ⟨magnitude, rfl | rfl⟩ := Int.eq_nat_or_neg count
  · exact natural magnitude
  · rw [millisAt_neg, natural, Int.mul_neg, roundHalfAway_neg]

/-- Counts at two rates that last equally long have the same value, for it is rounded only once. -/
theorem millisAt_eq_millisAt {rate target : Rate} {count other : Int}
    (sameLength : count * target.perSecond = other * rate.perSecond) :
    rate.millisAt count = target.millisAt other := by
  calc rate.millisAt count
      = roundHalfAway (1000 * count * target.perSecond) (rate.perSecond * target.perSecond) := by
        rw [roundHalfAway_mul_mul target.perSecond_pos, millisAt_eq_roundHalfAway]
    _ = roundHalfAway (1000 * other * rate.perSecond) (target.perSecond * rate.perSecond) := by
        rw [Int.mul_assoc, sameLength, Int.mul_assoc, Nat.mul_comm]
    _ = target.millisAt other := by
        rw [roundHalfAway_mul_mul rate.perSecond_pos, millisAt_eq_roundHalfAway]

/-- Two cuts in a row could miss the nearest millisecond, but these two do not. -/
theorem isNearestAway_millisAt (rate : Rate) (count : Int) :
    IsNearestAway (1000 * count) rate.perSecond (rate.millisAt count) := by
  rw [millisAt_eq_roundHalfAway]
  exact isNearestAway_roundHalfAway rate.perSecond_pos (1000 * count)

theorem millisAt_eq_iff (rate : Rate) (count millis : Int) :
    rate.millisAt count = millis ↔ IsNearestAway (1000 * count) rate.perSecond millis := by
  rw [millisAt_eq_roundHalfAway, roundHalfAway_eq_iff rate.perSecond_pos]

theorem two_mul_abs_millisAt_mul_sub_le (rate : Rate) (count : Int) :
    2 * |rate.millisAt count * rate.perSecond - 1000 * count| ≤ rate.perSecond :=
  (rate.isNearestAway_millisAt count).near

theorem two_mul_millisAt_mul_le (rate : Rate) (count : Int) :
    2 * (rate.millisAt count * rate.perSecond) ≤ 2000 * count + rate.perSecond := by
  have near := rate.two_mul_abs_millisAt_mul_sub_le count
  have := le_abs_self (rate.millisAt count * rate.perSecond - 1000 * count)
  omega

theorem le_two_mul_millisAt_mul (rate : Rate) (count : Int) :
    2000 * count ≤ 2 * (rate.millisAt count * rate.perSecond) + rate.perSecond := by
  have near := rate.two_mul_abs_millisAt_mul_sub_le count
  have := neg_abs_le (rate.millisAt count * rate.perSecond - 1000 * count)
  omega

/-- A whole millisecond at or above the exact quotient is at or above its rounded value. -/
theorem millisAt_le {rate : Rate} {count millis : Int}
    (above : 1000 * count ≤ millis * rate.perSecond) :
    rate.millisAt count ≤ millis := by
  have upper := rate.two_mul_millisAt_mul_le count
  have positive := rate.perSecond_pos
  by_contra exceeds
  have next : (millis + 1) * rate.perSecond ≤ rate.millisAt count * rate.perSecond :=
    Int.mul_le_mul_of_nonneg_right (by omega) (by omega)
  rw [Int.add_mul] at next
  omega

theorem le_millisAt {rate : Rate} {count millis : Int}
    (below : millis * rate.perSecond ≤ 1000 * count) :
    millis ≤ rate.millisAt count := by
  have mirrored : rate.millisAt (-count) ≤ -millis := by
    apply millisAt_le
    rw [Int.neg_mul]
    omega
  rw [millisAt_neg] at mirrored
  omega

@[simp] theorem millisAt_milliseconds (count : Int) : milliseconds.millisAt count = count :=
  Int.le_antisymm (millisAt_le (by simp [milliseconds]; omega))
    (le_millisAt (by simp [milliseconds]; omega))

theorem eq_milliseconds_of_perSecond {rate : Rate} (finest : rate.perSecond = 1000) :
    rate = milliseconds := by
  cases rate
  cases finest
  rfl

theorem millisAt_lt_millisAt_succ (rate : Rate) (count : Int) :
    rate.millisAt count < rate.millisAt (count + 1) := by
  by_cases finest : rate.perSecond = 1000
  · -- The bounds on the error would let two neighbours meet here.
    rw [eq_milliseconds_of_perSecond finest, millisAt_milliseconds, millisAt_milliseconds]
    omega
  · have upper := rate.two_mul_millisAt_mul_le count
    have lower := rate.le_two_mul_millisAt_mul (count + 1)
    have coarser : rate.perSecond < 1000 := by
      have := rate.perSecond_le
      omega
    have scaled : rate.millisAt count * rate.perSecond <
        rate.millisAt (count + 1) * rate.perSecond := by
      omega
    exact Int.lt_of_mul_lt_mul_right scaled (by omega)

/-- Different counts have different values, in the same order. -/
theorem millisAt_strictMono (rate : Rate) : StrictMono rate.millisAt :=
  strictMono_int_of_lt_succ rate.millisAt_lt_millisAt_succ

end Rate

namespace Span

/--
The milliseconds of a count are the one integer nearest to its exact length, halves
going away from zero. So the negated count has the negated milliseconds, and a
count of milliseconds stays what it is.
-/
theorem toMilliseconds_nearest (rate : Rate) (count : Int) :
    (∀ millis : Int, (Span.mk count rate).toMilliseconds.count = millis ↔
      IsNearestAway (1000 * count) rate.perSecond millis) ∧
      (Span.mk (-count) rate).toMilliseconds.count =
        -(Span.mk count rate).toMilliseconds.count ∧
      (Span.mk count .milliseconds).toMilliseconds.count = count := by
  refine ⟨?_, rate.millisAt_neg count, Rate.millisAt_milliseconds count⟩
  intro millis
  exact rate.millisAt_eq_iff count millis

/-- Seven thirteenths of a second are 538.46 milliseconds; by way of 538.5 they would become 539. -/
example : (Span.mk 7 ⟨13, by decide, by decide⟩).toMilliseconds.count = 538 := by decide

end Span

end DurationCalc
