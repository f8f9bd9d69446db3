import DurationCalc.Calculation
import DurationCalc.Proofs.LosslessDetour

/-!
# How far a total drifts

A total is rounded at every stage: each term to the nearest count, and the sum of
the counts to whole milliseconds. A term is off by half a gap of the grid at most.
Adding counts is exact, but the milliseconds of a sum of counts are not the sum of
their milliseconds, for each of these was rounded by up to half a millisecond. So
the drift grows with the number of terms and with nothing else. Terms that lie on
the grid already lose nothing on the way to their counts.
-/

namespace DurationCalc

/-- Errors add up: a bound for the error of each value bounds that of their sum. -/
theorem two_mul_abs_sum_sub_sum_le {rounded exact : Int → Int} {bound : Int}
    (near : ∀ value, 2 * |rounded value - exact value| ≤ bound) (values : List Int) :
    2 * |(values.map rounded).sum - (values.map exact).sum| ≤ values.length * bound := by
  induction values with
  | nil => simp
  | cons value later ih =>
      have regroup : ((value :: later).map rounded).sum - ((value :: later).map exact).sum =
          (rounded value - exact value) +
            ((later.map rounded).sum - (later.map exact).sum) := by
        simp only [List.map_cons, List.sum_cons]
        omega
      have triangle := abs_add_le (rounded value - exact value)
        ((later.map rounded).sum - (later.map exact).sum)
      have first := near value
      rw [regroup, List.length_cons, Nat.cast_succ, Int.add_mul]
      omega

namespace Rate

/-- A second's worth of quanta is a thousand milliseconds at every rate. -/
theorem millisAt_perSecond (rate : Rate) : rate.millisAt rate.perSecond = 1000 := by
  have wholeSecond : rate.millisAt rate.perSecond = milliseconds.millisAt 1000 :=
    millisAt_eq_millisAt (Int.mul_comm _ _)
  rw [wholeSecond, millisAt_milliseconds]

/-- Each count adds at most half a millisecond to the drift, and so does their sum. -/
theorem two_mul_abs_millisAt_sum_sub_le (rate : Rate) (counts : List Int) :
    2 * |rate.millisAt counts.sum - (counts.map rate.millisAt).sum| ≤ counts.length + 1 := by
  have ofSum := rate.two_mul_abs_millisAt_mul_sub_le counts.sum
  have ofEach := two_mul_abs_sum_sub_sum_le rate.two_mul_abs_millisAt_mul_sub_le counts
  rw [List.sum_map_mul_right, List.sum_map_mul_left, List.map_id'] at ofEach
  have triangle := abs_sub_le (rate.millisAt counts.sum * rate.perSecond) (1000 * counts.sum)
    ((counts.map rate.millisAt).sum * rate.perSecond)
  rw [abs_sub_comm (1000 * counts.sum), ← Int.sub_mul, abs_mul, Nat.abs_cast] at triangle
  have scaled : 2 * |rate.millisAt counts.sum - (counts.map rate.millisAt).sum| *
      rate.perSecond ≤ (counts.length + 1) * rate.perSecond := by
    rw [Int.mul_assoc, Int.add_mul]
    omega
  exact Int.le_of_mul_le_mul_right scaled (by exact_mod_cast rate.perSecond_pos)

theorem two_mul_abs_millisAt_sum_countAt_sub_le (rate : Rate) (terms : List Int) :
    2 * |rate.millisAt (terms.map rate.countAt).sum - terms.sum| ≤
      terms.length * (rate.wideGap + 1) + 1 := by
  have ofCounts := rate.two_mul_abs_millisAt_sum_sub_le (terms.map rate.countAt)
  have ofTerms := two_mul_abs_sum_sub_sum_le rate.two_mul_distance_countAt_le terms
  rw [List.map_id'] at ofTerms
  rw [List.map_map, List.length_map, Function.comp_def] at ofCounts
  have triangle := abs_sub_le (rate.millisAt (terms.map rate.countAt).sum)
    (terms.map fun millis => rate.millisAt (rate.countAt millis)).sum terms.sum
  rw [Int.mul_add]
  omega

end Rate

theorem total_eq_sum (terms : List Int) (rate : Rate) :
    total terms rate = ⟨(terms.map rate.countAt).sum, rate⟩ := by
  induction terms with
  | nil => rfl
  | cons millis later ih =>
      have unfolded : total (millis :: later) rate =
          ⟨((Span.ofMillis millis).convert rate).count + (total later rate).count, rate⟩ := rfl
      rw [unfolded, ih, Span.count_convert_ofMillis, List.map_cons, List.sum_cons]

theorem total_append (terms others : List Int) (rate : Rate) :
    total (terms ++ others) rate =
      ⟨(total terms rate).count + (total others rate).count, rate⟩ := by
  rw [total_eq_sum, total_eq_sum, total_eq_sum, List.map_append, List.sum_append]

theorem total_milliseconds (terms : List Int) :
    total terms .milliseconds = .ofMillis terms.sum := by
  have eachKept : Rate.milliseconds.countAt = id := funext Rate.countAt_milliseconds
  rw [total_eq_sum, eachKept, List.map_id, Span.ofMillis]

/-- Terms on the grid are worth their counts, and these are added without any loss. -/
theorem total_map_millisAt (counts : List Int) (rate : Rate) :
    total (counts.map rate.millisAt) rate = ⟨counts.sum, rate⟩ := by
  have eachFound : rate.countAt ∘ rate.millisAt = id := funext rate.countAt_millisAt
  rw [total_eq_sum, List.map_map, eachFound, List.map_id]

theorem millis_total_eq_sum_iff (rate : Rate) :
    (∀ terms : List Int, (total terms rate).millis = terms.sum) ↔ rate.perSecond = 1000 := by
  constructor
  · intro kept
    have repeated (number : Nat) : rate.millisAt (number * rate.countAt 1) = number := by
      have ofOnes := kept (List.replicate number 1)
      rw [total_eq_sum, List.map_replicate, List.sum_replicate, List.sum_replicate] at ofOnes
      simpa [Span.millis] using ofOnes
    -- A thousand terms of one make a second, and so many quanta as the rate has are one, too.
    have sameMillis := (repeated 1000).trans rate.millisAt_perSecond.symm
    have sameCount := rate.millisAt_strictMono.injective sameMillis
    have atLeastOne := rate.one_le_perSecond
    have atMostThousand := rate.perSecond_le
    omega
  · intro finest terms
    rw [Rate.eq_milliseconds_of_perSecond finest, total_milliseconds, Span.millis_ofMillis]

theorem Expression.Slot.value_eq_ok_iff (slot : Expression.Slot) (rate : Rate) (span : Span) :
    Expression.Slot.value slot rate = .ok span ↔
      ∃ terms, slot = .ok terms ∧ total terms rate = span := by
  constructor
  · intro hasValue
    cases slot with
    | ok terms =>
        cases hasValue
        exact ⟨terms, rfl, rfl⟩
    | error fault => cases hasValue
  · rintro ⟨terms, rfl, rfl⟩
    rfl

theorem getElem?_evaluate_eq_ok_iff (text : String) (rate : Rate) (position : Nat) (span : Span) :
    (evaluate text rate)[position]? = some (.ok span) ↔
      ∃ terms, (slotsOf text)[position]? = some (.ok terms) ∧ total terms rate = span := by
  rw [evaluate, values, List.getElem?_map, Option.map_eq_some_iff]
  constructor
  · rintro ⟨slot, isThere, hasValue⟩
    obtain ⟨terms, rfl, isTotal⟩ := (Expression.Slot.value_eq_ok_iff slot rate span).mp hasValue
    exact ⟨terms, isThere, isTotal⟩
  · rintro ⟨terms, isThere, rfl⟩
    exact ⟨.ok terms, isThere, rfl⟩

/--
The milliseconds of a total are at most half a gap of the grid for each term, and
half a millisecond for each term and for the sum, away from the sum of the terms;
they always are that sum at a thousand quanta per second and at no other rate. So
is an answer away from the one in milliseconds, which is exact, and it is there
whenever that one is.
-/
theorem total_drift_bounded (rate : Rate) :
    (∀ terms : List Int,
      2 * |(total terms rate).toMilliseconds.count - terms.sum| ≤
        terms.length * ((1000 ⌈/⌉ rate.perSecond : Nat) + 1) + 1) ∧
      ((∀ terms : List Int, (total terms rate).toMilliseconds.count = terms.sum) ↔
        rate.perSecond = 1000) ∧
      ∀ (text : String) (position : Nat) (exact : Span),
        (evaluate text .milliseconds)[position]? = some (.ok exact) →
        ∃ (terms : List Int) (answer : Span), (slotsOf text)[position]? = some (.ok terms) ∧
          exact = .ofMillis terms.sum ∧
          (evaluate text rate)[position]? = some (.ok answer) ∧
          2 * |answer.toMilliseconds.count - exact.toMilliseconds.count| ≤
            terms.length * ((1000 ⌈/⌉ rate.perSecond : Nat) + 1) + 1 := by
  have bounded (terms : List Int) :
      2 * |(total terms rate).toMilliseconds.count - terms.sum| ≤
        terms.length * ((1000 ⌈/⌉ rate.perSecond : Nat) + 1) + 1 := by
    rw [total_eq_sum]
    exact rate.two_mul_abs_millisAt_sum_countAt_sub_le terms
  refine ⟨bounded, millis_total_eq_sum_iff rate, ?_⟩
  intro text position exact isExact
  obtain ⟨terms, isThere, rfl⟩ := (getElem?_evaluate_eq_ok_iff _ _ _ _).mp isExact
  have answered : (evaluate text rate)[position]? = some (.ok (total terms rate)) :=
    (getElem?_evaluate_eq_ok_iff _ _ _ _).mpr ⟨terms, isThere, rfl⟩
  refine ⟨terms, total terms rate, isThere, total_milliseconds terms, answered, ?_⟩
  have exactMillis : (total terms .milliseconds).toMilliseconds.count = terms.sum :=
    (millis_total_eq_sum_iff .milliseconds).mpr rfl terms
  rw [exactMillis]
  exact bounded terms

/-- An expression is found again behind a faulty one, 32 milliseconds away at thirty a second. -/
theorem total_drift_bounded_behind_fault :
    (evaluate "x, 16 + 16" .milliseconds)[1]? = some (Except.ok (Span.ofMillis 32)) ∧
      ∃ (terms : List Int) (answer : Span), (slotsOf "x, 16 + 16")[1]? = some (Except.ok terms) ∧
        Span.ofMillis 32 = .ofMillis terms.sum ∧
        (evaluate "x, 16 + 16" .thirtyFrames)[1]? = some (Except.ok answer) ∧
        2 * |answer.toMilliseconds.count - (Span.ofMillis 32).toMilliseconds.count| ≤
          terms.length * ((1000 ⌈/⌉ Rate.thirtyFrames.perSecond : Nat) + 1) + 1 := by
  have isExact : (evaluate "x, 16 + 16" .milliseconds)[1]? =
      some (Except.ok (Span.ofMillis 32)) := by decide +kernel
  exact ⟨isExact, (total_drift_bounded .thirtyFrames).2.2 _ 1 _ isExact⟩

/-- The two terms of sixteen milliseconds are worth no frame each. -/
example : (total [16, 16] .thirtyFrames).toMilliseconds.count = 0 := by decide

/--
Terms that are the milliseconds of counts add up to the sum of these counts, and
the milliseconds of that sum are at most half a millisecond for each term and
another half away from the sum of the terms. Two such terms are off by one at most.
-/
theorem total_exact_on_grid (rate : Rate) :
    (∀ counts : List Int,
      total (counts.map fun count => (Span.mk count rate).toMilliseconds.count) rate =
          ⟨counts.sum, rate⟩ ∧
        2 * |(Span.mk counts.sum rate).toMilliseconds.count -
            (counts.map fun count => (Span.mk count rate).toMilliseconds.count).sum| ≤
          counts.length + 1) ∧
      ∀ first second : Int,
        |(Span.mk (first + second) rate).toMilliseconds.count -
            ((Span.mk first rate).toMilliseconds.count +
              (Span.mk second rate).toMilliseconds.count)| ≤ 1 := by
  constructor
  · intro counts
    exact ⟨total_map_millisAt counts rate, rate.two_mul_abs_millisAt_sum_sub_le counts⟩
  · intro first second
    have ofBoth := rate.two_mul_abs_millisAt_sum_sub_le [first, second]
    simp only [List.map_cons, List.map_nil, List.sum_pair, List.length_cons,
      List.length_nil] at ofBoth
    change |rate.millisAt (first + second) - (rate.millisAt first + rate.millisAt second)| ≤ 1
    omega

/-- One frame and another are 33 milliseconds each at thirty a second, and together they are 67. -/
example : (total [33, 33] .thirtyFrames).toMilliseconds.count = 67 := by decide

end DurationCalc
