import DurationCalc.Proofs.TotalDrift

/-!
# Conversions keep the order

A longer duration never becomes a smaller count, although the candidates around a
number and the choice between them change with its sign and its place between two
quanta. The rule of the closest count alone decides it: if the count of a number
were higher than that of a larger one, then the middle between the two values
would have to lie below the smaller number and above the larger one. So the counts
of terms keep their order, and with them the sums of these counts.
-/

namespace DurationCalc

/-- Of two numbers the upper one is as close as the lower one from their middle on. -/
theorem abs_upper_le_abs_lower_iff {lower upper : Int} (ordered : lower < upper) (number : Int) :
    |upper - number| ≤ |lower - number| ↔ lower + upper ≤ 2 * number := by
  rcases abs_cases (upper - number) with above | below
  · rcases abs_cases (lower - number) with _ | _
    · omega
    · omega
  · have bothBelow : |lower - number| = number - lower := by
      rw [abs_of_neg (by omega)]
      omega
    omega

namespace Rate

theorem IsClosestCount.le {rate : Rate} {smaller larger first second : Int}
    (ordered : smaller ≤ larger) (firstClosest : rate.IsClosestCount smaller first)
    (secondClosest : rate.IsClosestCount larger second) : first ≤ second := by
  -- If they were reversed, the middle of their values would separate the numbers the wrong way.
  by_contra reversed
  have valuesReversed := rate.millisAt_strictMono (Int.not_le.mp reversed)
  have asClose := firstClosest.closest second
  have farther : ¬|rate.millisAt first - larger| ≤ |rate.millisAt second - larger| := by
    intro alsoClose
    have sameDistance := le_antisymm alsoClose (secondClosest.closest first)
    exact reversed (secondClosest.highest first sameDistance)
  rw [abs_upper_le_abs_lower_iff valuesReversed] at asClose farther
  omega

theorem countAt_monotone (rate : Rate) : Monotone rate.countAt := by
  intro smaller larger ordered
  exact (rate.isClosestCount_countAt smaller).le ordered (rate.isClosestCount_countAt larger)

@[simp] theorem countAt_zero (rate : Rate) : rate.countAt 0 = 0 := by
  have fixed := rate.countAt_millisAt 0
  rwa [millisAt_zero] at fixed

end Rate

theorem count_total_le_count_total {terms others : List Int}
    (ordered : List.Forall₂ (· ≤ ·) terms others) (rate : Rate) :
    (total terms rate).count ≤ (total others rate).count := by
  have countsOrdered :
      List.Forall₂ (· ≤ ·) (terms.map rate.countAt) (others.map rate.countAt) := by
    rw [List.forall₂_map_left_iff, List.forall₂_map_right_iff]
    exact ordered.imp fun _ _ termOrdered => rate.countAt_monotone termOrdered
  rw [total_eq_sum, total_eq_sum]
  exact countsOrdered.sum_le_sum

namespace Span

theorem count_convert_le_count_convert {first second : Span}
    (ordered : first.millis ≤ second.millis) (target : Rate) :
    (first.convert target).count ≤ (second.convert target).count :=
  target.countAt_monotone ordered

theorem millis_nonneg_iff (span : Span) : 0 ≤ span.millis ↔ 0 ≤ span.count := by
  have sameOrder := span.rate.millisAt_strictMono.le_iff_le (a := 0) (b := span.count)
  rwa [Rate.millisAt_zero] at sameOrder

theorem millis_nonpos_iff (span : Span) : span.millis ≤ 0 ↔ span.count ≤ 0 := by
  have sameOrder := span.rate.millisAt_strictMono.le_iff_le (a := span.count) (b := 0)
  rwa [Rate.millisAt_zero] at sameOrder

/--
Spans in the order of their milliseconds have counts in that order at the target
rate, whatever their own rates are, and so do totals of terms that are ordered one
by one. In particular no conversion changes a sign: what is not negative does not
become negative, and what is not positive does not become positive, on the way to
milliseconds and at the target rate.
-/
theorem convert_keeps_order (target : Rate) :
    (∀ first second : Span, first.toMilliseconds.count ≤ second.toMilliseconds.count →
      (first.convert target).count ≤ (second.convert target).count) ∧
      (∀ terms others : List Int, List.Forall₂ (· ≤ ·) terms others →
        (total terms target).count ≤ (total others target).count) ∧
      ∀ span : Span,
        (0 ≤ span.toMilliseconds.count ↔ 0 ≤ span.count) ∧
        (span.toMilliseconds.count ≤ 0 ↔ span.count ≤ 0) ∧
        (0 ≤ span.toMilliseconds.count → 0 ≤ (span.convert target).count) ∧
        (span.toMilliseconds.count ≤ 0 → (span.convert target).count ≤ 0) := by
  refine ⟨fun _ _ ordered => count_convert_le_count_convert ordered target,
    fun _ _ ordered => count_total_le_count_total ordered target, ?_⟩
  intro span
  refine ⟨span.millis_nonneg_iff, span.millis_nonpos_iff, ?_, ?_⟩
  · intro nonneg
    have ordered := target.countAt_monotone nonneg
    rwa [Rate.countAt_zero] at ordered
  · intro nonpos
    have ordered := target.countAt_monotone nonpos
    rwa [Rate.countAt_zero] at ordered

/--
At 400 quanta per second minus four milliseconds are a midpoint, as four are: a
film frame before the start comes below it, and terms from both sides of zero stay
in order.
-/
theorem convert_keeps_order_at_midpoints :
    let film : Rate := ⟨24, by decide, by decide⟩
    let fine : Rate := ⟨400, by decide, by decide⟩
    ((Span.mk (-1) film).toMilliseconds.count ≤ (ofMillis (-4)).toMilliseconds.count ∧
        ((Span.mk (-1) film).convert fine).count ≤ ((ofMillis (-4)).convert fine).count) ∧
      (List.Forall₂ (· ≤ ·) [-4, 3] [-3, (4 : Int)] ∧
        (total [-4, 3] fine).count ≤ (total [-3, 4] fine).count) ∧
      (0 ≤ (Span.mk 1 film).toMilliseconds.count ∧ 0 ≤ ((Span.mk 1 film).convert fine).count) ∧
      ((ofMillis (-4)).toMilliseconds.count ≤ 0 ∧ ((ofMillis (-4)).convert fine).count ≤ 0) := by
  intro film fine
  have keepsOrder := convert_keeps_order fine
  have termsOrdered : List.Forall₂ (· ≤ ·) [-4, 3] [-3, (4 : Int)] := by decide
  exact ⟨⟨by decide, keepsOrder.1 _ _ (by decide)⟩,
    ⟨termsOrdered, keepsOrder.2.1 _ _ termsOrdered⟩,
    ⟨by decide, (keepsOrder.2.2 _).2.2.1 (by decide)⟩,
    ⟨by decide, (keepsOrder.2.2 _).2.2.2 (by decide)⟩⟩

/-- Less than half a frame on either side of zero becomes no frame. -/
example : ((ofMillis (-16)).convert .thirtyFrames).count = 0 ∧
    ((ofMillis 16).convert .thirtyFrames).count = 0 := by decide

end Span

end DurationCalc
