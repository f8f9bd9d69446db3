import DurationCalc.Proofs.ClosestCount
import DurationCalc.Proofs.GridGaps

/-!
# Detours through another rate

Converting a span to another rate moves it by at most half a gap of that rate's
grid. If the gaps of its own grid are wider than that by all means, no other count
comes as close to the new place, so that converting back undoes the move.
-/

namespace DurationCalc

namespace Rate

/-- The closest count is at most half a gap away: its two candidates enclose the number. -/
theorem two_mul_distance_countAt_le (rate : Rate) (millis : Int) :
    2 * |rate.millisAt (rate.countAt millis) - millis| ≤ rate.wideGap := by
  have chosen := rate.isClosestCount_countAt millis
  have belowLe := rate.millisAt_countBelow_le millis
  have leAbove := rate.le_millisAt_countBelow_succ millis
  have fromBelow := chosen.closest (rate.countBelow millis)
  have fromAbove := chosen.closest (rate.countBelow millis + 1)
  rw [abs_of_nonpos (by omega : rate.millisAt (rate.countBelow millis) - millis ≤ 0)] at fromBelow
  rw [abs_of_nonneg (by omega : 0 ≤ rate.millisAt (rate.countBelow millis + 1) - millis)]
    at fromAbove
  have gap := rate.millisAt_succ_le (rate.countBelow millis)
  omega

/-- A count less than half a gap away is the closest one. -/
theorem countAt_eq_of_two_mul_distance_lt {rate : Rate} {millis count : Int}
    (near : 2 * |rate.millisAt count - millis| < rate.narrowGap) :
    rate.countAt millis = count := by
  have farther {other : Int} (differs : other ≠ count) :
      |rate.millisAt count - millis| < |rate.millisAt other - millis| := by
    have apart := rate.narrowGap_le_abs_sub differs
    have around := abs_sub_le (rate.millisAt other) millis (rate.millisAt count)
    rw [abs_sub_comm millis] at around
    omega
  rw [countAt_eq_iff]
  constructor
  · intro other
    rcases eq_or_ne other count with rfl | differs
    · exact le_rfl
    · exact (farther differs).le
  · intro other asClose
    by_contra isHigher
    have := farther (show other ≠ count by omega)
    omega

theorem countAt_millisAt_countAt {rate target : Rate} (finer : target.wideGap < rate.narrowGap)
    (count : Int) :
    rate.countAt (target.millisAt (target.countAt (rate.millisAt count))) = count := by
  apply countAt_eq_of_two_mul_distance_lt
  have moved := target.two_mul_distance_countAt_le (rate.millisAt count)
  rw [abs_sub_comm]
  omega

/-- Some counts do not survive if the rates are too close. -/
example : countAt ⟨998, by decide, by decide⟩ (millisAt ⟨999, by decide, by decide⟩
    (countAt ⟨999, by decide, by decide⟩ (millisAt ⟨998, by decide, by decide⟩ 499))) = 500 := by
  decide

end Rate

namespace Span

/--
A span comes back unchanged from a rate whose quanta, taken to the next whole
millisecond, are shorter than its own without their fraction.
-/
theorem convert_convert_of_shorter_quanta (span : Span) (target : Rate)
    (shorter : 1000 ⌈/⌉ target.perSecond < 1000 / span.rate.perSecond) :
    (span.convert target).convert span.rate = span := by
  have back : span.rate.countAt (target.millisAt (target.countAt (span.rate.millisAt span.count))) =
      span.count :=
    Rate.countAt_millisAt_countAt shorter span.count
  rw [convert, millis, convert, millis, back]

/-- A film at 24 frames survives 25, 30 and 60 frames, before its start, too. -/
theorem convert_convert_film_frames :
    let film : Rate := ⟨24, by decide, by decide⟩
    let television : Rate := ⟨25, by decide, by decide⟩
    (1000 ⌈/⌉ television.perSecond < 1000 / film.perSecond ∧
        ((Span.mk 1001 film).convert television).convert film = ⟨1001, film⟩) ∧
      (1000 ⌈/⌉ Rate.thirtyFrames.perSecond < 1000 / film.perSecond ∧
        ((Span.mk (-7) film).convert .thirtyFrames).convert film = ⟨-7, film⟩) ∧
      (1000 ⌈/⌉ Rate.sixtyFrames.perSecond < 1000 / film.perSecond ∧
        ((Span.mk (-1) film).convert .sixtyFrames).convert film = ⟨-1, film⟩) := by
  intro film television
  exact ⟨⟨by decide, convert_convert_of_shorter_quanta ⟨1001, film⟩ television (by decide)⟩,
    ⟨by decide, convert_convert_of_shorter_quanta ⟨-7, film⟩ .thirtyFrames (by decide)⟩,
    ⟨by decide, convert_convert_of_shorter_quanta ⟨-1, film⟩ .sixtyFrames (by decide)⟩⟩

end Span

end DurationCalc
