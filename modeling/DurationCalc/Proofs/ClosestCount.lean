import DurationCalc.Proofs.MillisecondGrid

/-!
# The count that comes closest

Converting a number of milliseconds to a rate looks at two neighbouring counts
only. Their values enclose the number, whatever its sign, so no other count comes
closer. This file proves that the choice is the best among all counts, with the
higher one on a tie, and that a count survives the way to milliseconds and back.
-/

namespace DurationCalc

namespace Rate

/-- No count has a value closer to `millis`, and of those as close none is higher. -/
structure IsClosestCount (rate : Rate) (millis count : Int) : Prop where
  closest : ∀ other,
    |rate.millisAt count - millis| ≤ |rate.millisAt other - millis|
  highest : ∀ other,
    |rate.millisAt other - millis| = |rate.millisAt count - millis| → other ≤ count

/-- The two conditions leave one count only. -/
theorem IsClosestCount.unique {rate : Rate} {millis first second : Int}
    (firstClosest : rate.IsClosestCount millis first)
    (secondClosest : rate.IsClosestCount millis second) :
    first = second := by
  have distanceEq := Int.le_antisymm (firstClosest.closest second) (secondClosest.closest first)
  exact Int.le_antisymm (secondClosest.highest first distanceEq)
    (firstClosest.highest second distanceEq.symm)

theorem isClosestCount_millisAt (rate : Rate) (count : Int) :
    rate.IsClosestCount (rate.millisAt count) count where
  closest := by
    intro other
    rw [Int.sub_self, abs_zero]
    exact abs_nonneg _
  highest := by
    intro other atDistance
    rw [Int.sub_self, abs_zero, abs_eq_zero, Int.sub_eq_zero] at atDistance
    exact Int.le_of_eq (rate.millisAt_strictMono.injective atDistance)

theorem truncated_bounds (rate : Rate) (millis : Int) :
    1000 * ((millis * rate.perSecond).tdiv 1000 - 1) ≤ millis * rate.perSecond ∧
      millis * rate.perSecond ≤ 1000 * ((millis * rate.perSecond).tdiv 1000 + 1) := by
  have division := Int.mul_tdiv_add_tmod (millis * rate.perSecond) 1000
  have restUpper := Int.tmod_lt_of_pos (millis * rate.perSecond) (b := 1000) (by decide)
  have restLower := Int.lt_tmod_of_pos (millis * rate.perSecond) (b := 1000) (by decide)
  omega

theorem millisAt_countBelow_le (rate : Rate) (millis : Int) :
    rate.millisAt (rate.countBelow millis) ≤ millis := by
  unfold countBelow
  dsimp only
  split
  · assumption
  · exact millisAt_le (rate.truncated_bounds millis).1

theorem le_millisAt_countBelow_succ (rate : Rate) (millis : Int) :
    millis ≤ rate.millisAt (rate.countBelow millis + 1) := by
  unfold countBelow
  dsimp only
  split
  · exact le_millisAt (rate.truncated_bounds millis).2
  · rw [Int.sub_add_cancel]
    omega

theorem sub_millisAt_le_distance (rate : Rate) {count other : Int} (otherLe : other ≤ count)
    (millis : Int) :
    millis - rate.millisAt count ≤ |rate.millisAt other - millis| := by
  have ordered := rate.millisAt_strictMono.monotone otherLe
  have distance := neg_abs_le (rate.millisAt other - millis)
  omega

theorem millisAt_sub_le_distance (rate : Rate) {count other : Int} (leOther : count ≤ other)
    (millis : Int) :
    rate.millisAt count - millis ≤ |rate.millisAt other - millis| := by
  have ordered := rate.millisAt_strictMono.monotone leOther
  have distance := le_abs_self (rate.millisAt other - millis)
  omega

/-- A value from below that is closer than that of the next count is the closest. -/
theorem isClosestCount_lower {rate : Rate} {millis below : Int}
    (belowLe : rate.millisAt below ≤ millis)
    (closer : millis - rate.millisAt below < rate.millisAt (below + 1) - millis) :
    rate.IsClosestCount millis below := by
  have belowDistance : |rate.millisAt below - millis| = millis - rate.millisAt below := by
    rw [abs_of_nonpos (by omega)]
    omega
  constructor
  · intro other
    rw [belowDistance]
    rcases Int.lt_or_le below other with isAbove | isBelow
    · have := rate.millisAt_sub_le_distance (show below + 1 ≤ other from isAbove) millis
      omega
    · exact rate.sub_millisAt_le_distance isBelow millis
  · intro other atDistance
    rw [belowDistance] at atDistance
    by_contra isAbove
    have := rate.millisAt_sub_le_distance (show below + 1 ≤ other by omega) millis
    omega

/-- A value from above that is as close as that of the count before is the closest. -/
theorem isClosestCount_upper {rate : Rate} {millis below : Int}
    (leAbove : millis ≤ rate.millisAt (below + 1))
    (asClose : rate.millisAt (below + 1) - millis ≤ millis - rate.millisAt below) :
    rate.IsClosestCount millis (below + 1) := by
  have aboveDistance :
      |rate.millisAt (below + 1) - millis| = rate.millisAt (below + 1) - millis :=
    abs_of_nonneg (by omega)
  constructor
  · intro other
    rw [aboveDistance]
    rcases Int.lt_or_le below other with isAbove | isBelow
    · exact rate.millisAt_sub_le_distance isAbove millis
    · have := rate.sub_millisAt_le_distance isBelow millis
      omega
  · intro other atDistance
    rw [aboveDistance] at atDistance
    by_contra isHigher
    have higher := rate.millisAt_strictMono (show below + 1 < other by omega)
    have := rate.millisAt_sub_le_distance (Int.le_refl other) millis
    omega

/-- The choice between the two candidates is the closest of all counts. -/
theorem isClosestCount_countAt (rate : Rate) (millis : Int) :
    rate.IsClosestCount millis (rate.countAt millis) := by
  unfold countAt
  dsimp only
  split
  · exact isClosestCount_lower (rate.millisAt_countBelow_le millis) (by omega)
  · exact isClosestCount_upper (rate.le_millisAt_countBelow_succ millis) (by omega)

theorem countAt_eq_iff (rate : Rate) (millis count : Int) :
    rate.countAt millis = count ↔ rate.IsClosestCount millis count := by
  constructor
  · rintro rfl
    exact rate.isClosestCount_countAt millis
  · exact (rate.isClosestCount_countAt millis).unique

@[simp] theorem countAt_millisAt (rate : Rate) (count : Int) :
    rate.countAt (rate.millisAt count) = count :=
  (rate.countAt_eq_iff _ _).mpr (rate.isClosestCount_millisAt count)

@[simp] theorem countAt_milliseconds (millis : Int) : milliseconds.countAt millis = millis := by
  have fixed := milliseconds.countAt_millisAt millis
  rwa [millisAt_milliseconds] at fixed

end Rate

namespace Span

@[simp] theorem millis_ofMillis (millis : Int) : (ofMillis millis).millis = millis :=
  Rate.millisAt_milliseconds millis

@[simp] theorem count_convert_ofMillis (millis : Int) (target : Rate) :
    ((ofMillis millis).convert target).count = target.countAt millis := by
  rw [convert, millis_ofMillis]

theorem toMilliseconds_convert (span : Span) (target : Rate) :
    span.toMilliseconds.convert target = span.convert target := by
  rw [convert, toMilliseconds, millis_ofMillis, convert]

@[simp] theorem convert_rate (span : Span) : span.convert span.rate = span := by
  rw [convert, millis, Rate.countAt_millisAt]

/--
Of all counts at the target rate, the converted one has the millisecond value
closest to that of the span, and no higher count is equally close.
-/
theorem convert_closest (span : Span) (target : Rate) (other : Int) :
    |(span.convert target).toMilliseconds.count - span.toMilliseconds.count| ≤
        |(Span.mk other target).toMilliseconds.count - span.toMilliseconds.count| ∧
      (|(Span.mk other target).toMilliseconds.count - span.toMilliseconds.count| =
          |(span.convert target).toMilliseconds.count - span.toMilliseconds.count| →
        other ≤ (span.convert target).count) := by
  have chosen := target.isClosestCount_countAt span.millis
  exact ⟨chosen.closest other, chosen.highest other⟩

/-- Below zero, too: minus four milliseconds lie between the values of -2 and -1 at 400 quanta. -/
theorem convert_closest_minus_four_millis :
    |(Span.mk (-2) ⟨400, by decide, by decide⟩).toMilliseconds.count -
          (ofMillis (-4)).toMilliseconds.count| =
        |((ofMillis (-4)).convert ⟨400, by decide, by decide⟩).toMilliseconds.count -
          (ofMillis (-4)).toMilliseconds.count| ∧
      -2 ≤ ((ofMillis (-4)).convert ⟨400, by decide, by decide⟩).count :=
  ⟨by decide, (convert_closest (ofMillis (-4)) ⟨400, by decide, by decide⟩ (-2)).2 (by decide)⟩

/--
At one rate, a span comes back from its milliseconds and from a conversion to
that same rate, and different counts have different milliseconds in the same
order.
-/
theorem millisecond_round_trip (rate : Rate) :
    (∀ count : Int, (Span.mk count rate).toMilliseconds.convert rate = ⟨count, rate⟩) ∧
      (∀ count : Int, (Span.mk count rate).convert rate = ⟨count, rate⟩) ∧
      StrictMono (fun count : Int => (Span.mk count rate).toMilliseconds.count) ∧
      ∀ first second : Int,
        (Span.mk first rate).toMilliseconds = (Span.mk second rate).toMilliseconds →
          first = second := by
  refine ⟨?_, ?_, rate.millisAt_strictMono, ?_⟩
  · intro count
    rw [toMilliseconds_convert]
    exact convert_rate ⟨count, rate⟩
  · intro count
    exact convert_rate ⟨count, rate⟩
  · intro first second sameMillis
    exact rate.millisAt_strictMono.injective (congrArg Span.count sameMillis)

end Span

end DurationCalc
