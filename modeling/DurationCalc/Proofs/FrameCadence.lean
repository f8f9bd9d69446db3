import DurationCalc.Proofs.GridGaps
import Mathlib.Data.Rat.Floor

/-!
# The cadence of frames

Frames of equal length start at whole milliseconds, so the distance from one start
to the next varies: at thirty frames a second it is 33, 34 and 33 milliseconds in
turn. Each distance is the exact length rounded down or up. A whole second is a
whole number of milliseconds, so it passes through the rounding unchanged, and the
pattern of one second comes back in every other: the starts never drift away.
-/

namespace DurationCalc

namespace Rate

theorem narrowGap_eq_floor (rate : Rate) :
    (rate.narrowGap : Int) = ⌊(1000 : ℚ) / rate.perSecond⌋ := by
  have quotient := Rat.floor_natCast_div_natCast 1000 rate.perSecond
  rw [narrowGap]
  exact_mod_cast quotient.symm

theorem wideGap_eq_ceil (rate : Rate) :
    (rate.wideGap : Int) = ⌈(1000 : ℚ) / rate.perSecond⌉ := by
  have positive : (0 : ℚ) < rate.perSecond := by exact_mod_cast rate.perSecond_pos
  have natural : rate.wideGap = ⌈(1000 : ℚ) / rate.perSecond⌉₊ := by
    apply eq_of_forall_ge_iff
    intro bound
    -- Both sides are the least number that, taken `perSecond` times, reaches a second.
    rw [wideGap, ceilDiv_le_iff_le_smul rate.perSecond_pos, Nat.ceil_le, div_le_iff₀ positive,
      smul_eq_mul, Nat.mul_comm]
    norm_cast
  rw [natural, Int.natCast_ceil_eq_ceil (by positivity)]

/-- The milliseconds from the start of a frame to the start of the next one. -/
def frameLength (rate : Rate) (frame : Int) : Int :=
  rate.millisAt (frame + 1) - rate.millisAt frame

theorem frameLength_bounds (rate : Rate) (frame : Int) :
    ⌊(1000 : ℚ) / rate.perSecond⌋ ≤ rate.frameLength frame ∧
      rate.frameLength frame ≤ ⌈(1000 : ℚ) / rate.perSecond⌉ := by
  have atLeast := rate.le_millisAt_succ frame
  have atMost := rate.millisAt_succ_le frame
  rw [← narrowGap_eq_floor, ← wideGap_eq_ceil, frameLength]
  omega

/-- A whole second of quanta is a whole number of milliseconds, which the rounding lets pass. -/
theorem millisAt_seconds_add (rate : Rate) (seconds rest : Nat) :
    rate.millisAt (rate.perSecond * seconds + rest) = 1000 * seconds + rate.millisAt rest := by
  have wholeSeconds : 1000 * (rate.perSecond * seconds + rest) =
      1000 * rest + 1000 * seconds * rate.perSecond := by
    ring
  have rounded := rate.millisAt_natCast (rate.perSecond * seconds + rest)
  rw [wholeSeconds, roundHalfUp_add_mul rate.perSecond_pos] at rounded
  rw [millisAt_natCast]
  push_cast at rounded
  omega

theorem frameLength_seconds_add (rate : Rate) (seconds rest : Nat) :
    rate.frameLength (rate.perSecond * seconds + rest) = rate.frameLength rest := by
  have starts := rate.millisAt_seconds_add seconds rest
  have ends := rate.millisAt_seconds_add seconds (rest + 1)
  rw [Nat.cast_succ, ← Int.add_assoc] at ends
  rw [frameLength, frameLength]
  omega

end Rate

namespace Span

/--
From one frame to the next the milliseconds grow by the exact length of a frame,
rounded down or up, before the start as after it. Counting from the start in either
direction, whole seconds add their exact milliseconds to what the rest amounts to,
so the lengths of the frames are the same in every second.
-/
theorem milliseconds_keep_cadence (rate : Rate) :
    (∀ frame : Int,
      (Span.mk (frame + 1) rate).toMilliseconds.count -
          (Span.mk frame rate).toMilliseconds.count = rate.frameLength frame ∧
        ⌊(1000 : ℚ) / rate.perSecond⌋ ≤ rate.frameLength frame ∧
        rate.frameLength frame ≤ ⌈(1000 : ℚ) / rate.perSecond⌉) ∧
      ∀ seconds rest : Nat,
        (Span.mk (rate.perSecond * seconds + rest) rate).toMilliseconds.count =
            1000 * seconds + (Span.mk rest rate).toMilliseconds.count ∧
          (Span.mk (-(rate.perSecond * seconds + rest)) rate).toMilliseconds.count =
            -(1000 * seconds + (Span.mk rest rate).toMilliseconds.count) ∧
          rate.frameLength (rate.perSecond * seconds + rest) = rate.frameLength rest := by
  constructor
  · intro frame
    exact ⟨rfl, rate.frameLength_bounds frame⟩
  · intro seconds rest
    have afterStart := rate.millisAt_seconds_add seconds rest
    refine ⟨afterStart, ?_, rate.frameLength_seconds_add seconds rest⟩
    change rate.millisAt (-(rate.perSecond * seconds + rest)) = _
    rw [Rate.millisAt_neg, afterStart]
    rfl

/-- Thirty frames a second last 33, 34 and 33 milliseconds in turn, before the start as after it. -/
example : [-3, -2, -1, 0, 1, 2].map Rate.thirtyFrames.frameLength = [33, 34, 33, 33, 34, 33] := by
  decide

end Span

end DurationCalc
