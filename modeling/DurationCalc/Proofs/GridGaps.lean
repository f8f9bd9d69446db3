import DurationCalc.Proofs.MillisecondGrid

/-!
# The gaps of the grid of millisecond values

A quantum rarely is a whole number of milliseconds, so the values of neighbouring
counts are not always equally far apart. Every gap is the exact length of a
quantum with its fraction cut off or filled up, below zero and across zero as
well, so different counts are never closer together than the narrower of the two.
-/

namespace DurationCalc

namespace Rate

/-- The length of a quantum in milliseconds without its fraction. -/
def narrowGap (rate : Rate) : Nat :=
  1000 / rate.perSecond

/-- The length of a quantum in milliseconds with its fraction filled up. -/
def wideGap (rate : Rate) : Nat :=
  1000 ⌈/⌉ rate.perSecond

theorem narrowGap_mul_le (rate : Rate) : rate.narrowGap * rate.perSecond ≤ 1000 :=
  Nat.div_mul_le_self 1000 rate.perSecond

theorem le_wideGap_mul (rate : Rate) : 1000 ≤ rate.wideGap * rate.perSecond := by
  rw [Nat.mul_comm]
  exact le_smul_ceilDiv rate.perSecond_pos

theorem millisAt_natCast_succ_le (rate : Rate) (count : Nat) :
    rate.millisAt (count + 1 : Nat) ≤ rate.millisAt count + rate.wideGap := by
  have enough : 1000 * (count + 1) ≤ 1000 * count + rate.wideGap * rate.perSecond := by
    have := rate.le_wideGap_mul
    omega
  have rounded := roundHalfUp_mono enough rate.perSecond
  rw [roundHalfUp_add_mul rate.perSecond_pos] at rounded
  rw [millisAt_natCast, millisAt_natCast]
  exact_mod_cast rounded

theorem le_millisAt_natCast_succ (rate : Rate) (count : Nat) :
    rate.millisAt count + rate.narrowGap ≤ rate.millisAt (count + 1 : Nat) := by
  have fits : 1000 * count + rate.narrowGap * rate.perSecond ≤ 1000 * (count + 1) := by
    have := rate.narrowGap_mul_le
    omega
  have rounded := roundHalfUp_mono fits rate.perSecond
  rw [roundHalfUp_add_mul rate.perSecond_pos] at rounded
  rw [millisAt_natCast, millisAt_natCast]
  exact_mod_cast rounded

/-- A gap below zero is the mirror image of one above. -/
theorem millisAt_negSucc_succ (rate : Rate) (before : Nat) :
    rate.millisAt (Int.negSucc before + 1) - rate.millisAt (Int.negSucc before) =
      rate.millisAt (before + 1 : Nat) - rate.millisAt before := by
  have lower : Int.negSucc before = -((before + 1 : Nat) : Int) := rfl
  have upper : Int.negSucc before + 1 = -(before : Int) := by omega
  rw [upper, lower, millisAt_neg, millisAt_neg]
  omega

theorem millisAt_succ_le (rate : Rate) (count : Int) :
    rate.millisAt (count + 1) ≤ rate.millisAt count + rate.wideGap := by
  cases count with
  | ofNat count => exact rate.millisAt_natCast_succ_le count
  | negSucc before =>
      have mirrored := rate.millisAt_negSucc_succ before
      have bounded := rate.millisAt_natCast_succ_le before
      omega

theorem le_millisAt_succ (rate : Rate) (count : Int) :
    rate.millisAt count + rate.narrowGap ≤ rate.millisAt (count + 1) := by
  cases count with
  | ofNat count => exact rate.le_millisAt_natCast_succ count
  | negSucc before =>
      have mirrored := rate.millisAt_negSucc_succ before
      have bounded := rate.le_millisAt_natCast_succ before
      omega

/-- Different counts are at least the narrow gap apart. -/
theorem narrowGap_le_abs_sub (rate : Rate) {first second : Int} (differ : first ≠ second) :
    (rate.narrowGap : Int) ≤ |rate.millisAt first - rate.millisAt second| := by
  have ordered {lower upper : Int} (below : lower < upper) :
      rate.millisAt lower + rate.narrowGap ≤ rate.millisAt upper := by
    have next := rate.le_millisAt_succ lower
    have rest := rate.millisAt_strictMono.monotone (show lower + 1 ≤ upper from below)
    omega
  rcases Int.lt_or_gt_of_ne differ with below | above
  · rw [abs_sub_comm]
    exact le_trans (by have := ordered below; omega) (le_abs_self _)
  · exact le_trans (by have := ordered above; omega) (le_abs_self _)

end Rate

end DurationCalc
