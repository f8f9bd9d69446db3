import DurationCalc.Proofs.CanonicalReading
import DurationCalc.Proofs.PlainNumerals

/-!
# Canonical texts are exactly the texts that durations have

The form of a canonical text is described part by part, from the largest one
that is not zero. A clock reading is written in the same order, so each clause
of the form has a clock reading behind it, and every reading falls under one of
the clauses. Together with the way back through the reader, a text of this form
is the only spelling of its duration.
-/

namespace DurationCalc

namespace Clock

/-- Nothing for no milliseconds, and three digits otherwise. -/
def remainderText (clock : Clock) : List Char :=
  if clock.millis.val = 0 then [] else Text.padded 3 clock.millis

/-- The parts after the skipped ones, and the remainder. -/
def textFrom (skipped : Nat) (clock : Clock) : List Char :=
  (clock.parts.drop skipped).foldr (fun part rest => partText part ++ rest) clock.remainderText

theorem flatMap_partText_append (parts : List (Nat × Nat × TimeUnit)) (rest : List Char) :
    parts.flatMap partText ++ rest =
      parts.foldr (fun part later => partText part ++ later) rest := by
  induction parts with
  | nil => rfl
  | cons part later ih => rw [List.flatMap_cons, List.append_assoc, ih, List.foldr_cons]

/-- A reading is written from its first part that is not zero. -/
theorem text_eq_textFrom {clock : Clock} (skipped : Nat) {part : Nat × Nat × TimeUnit}
    {later : List (Nat × Nat × TimeUnit)}
    (skippedZero : ∀ earlier ∈ clock.parts.take skipped, earlier.1 = 0)
    (next : clock.parts.drop skipped = part :: later) (nonzero : part.1 ≠ 0) :
    clock.text = clock.textFrom skipped := by
  have written : clock.writtenParts = clock.parts.drop skipped := by
    rw [writtenParts, ← List.take_append_drop skipped clock.parts,
      List.dropWhile_append_of_pos (by simpa using skippedZero), List.take_append_drop, next]
    exact List.dropWhile_cons_of_neg (by simpa using nonzero)
  have someWritten : clock.writtenParts ≠ [] := by
    rw [written, next]
    exact List.cons_ne_nil part later
  simp only [text, someWritten, ne_eq, not_false_eq_true, and_true]
  rw [written, flatMap_partText_append]
  rfl

theorem text_eq_padded {clock : Clock} (allZero : ∀ part ∈ clock.parts, part.1 = 0) :
    clock.text = Text.padded 3 clock.millis := by
  have noneWritten : clock.writtenParts = [] := by
    rw [writtenParts, List.dropWhile_eq_nil_iff]
    simpa using allZero
  simp [text, noneWritten]

theorem toMillis_ne_zero {clock : Clock} {part : Nat × Nat × TimeUnit}
    (isThere : part ∈ clock.parts) (nonzero : part.1 ≠ 0) : clock.toMillis ≠ 0 := by
  simp only [parts, List.mem_cons, List.not_mem_nil, or_false] at isThere
  rcases isThere with rfl | rfl | rfl | rfl
  all_goals
    simp only [toMillis] at nonzero ⊢
    omega

theorem exists_text_eq_textFrom (clock : Clock) (skipped : Nat) {part : Nat × Nat × TimeUnit}
    {later : List (Nat × Nat × TimeUnit)}
    (skippedZero : ∀ earlier ∈ clock.parts.take skipped, earlier.1 = 0)
    (next : clock.parts.drop skipped = part :: later) (nonzero : part.1 ≠ 0) :
    ∃ reading : Clock, reading.toMillis ≠ 0 ∧ reading.text = clock.textFrom skipped := by
  have isThere : part ∈ clock.parts := List.mem_of_mem_drop (next ▸ List.mem_cons_self)
  exact ⟨clock, toMillis_ne_zero isThere nonzero, text_eq_textFrom skipped skippedZero next nonzero⟩

end Clock

namespace Canonical

open Clock (partText textFrom)

theorem isRemainder_iff (text : List Char) :
    IsRemainder text ↔ ∃ clock : Clock, text = clock.remainderText := by
  constructor
  · rintro (rfl | ⟨value, positive, bounded, rfl⟩)
    · exact ⟨⟨0, 0, 0, 0, 0⟩, rfl⟩
    · refine ⟨⟨0, 0, 0, 0, ⟨value, bounded⟩⟩, ?_⟩
      rw [Clock.remainderText, if_neg (by simp; omega), threeDigits_eq_padded bounded]
  · rintro ⟨clock, rfl⟩
    rw [Clock.remainderText]
    split
    · exact .inl rfl
    · exact .inr ⟨clock.millis, by omega, clock.millis.isLt,
        (threeDigits_eq_padded clock.millis.isLt).symm⟩

/-- A part and what comes after it, with the part as it is written. -/
theorem isPart_append_iff {least bound : Nat} (twoPlaces : bound ≤ 100) (unit : TimeUnit)
    (below : List Char → Prop) (text : List Char) :
    (∃ part rest, IsPart least bound unit part ∧ below rest ∧ text = part ++ rest) ↔
      ∃ (value : Fin bound) (rest : List Char),
        least ≤ value ∧ below rest ∧ text = partText (value, 2, unit) ++ rest := by
  constructor
  · rintro ⟨part, rest, ⟨value, leastLe, bounded, rfl⟩, isBelow, rfl⟩
    refine ⟨⟨value, bounded⟩, rest, leastLe, isBelow, ?_⟩
    rw [partText, twoDigits_eq_padded (by omega)]
  · rintro ⟨value, rest, leastLe, isBelow, rfl⟩
    refine ⟨_, rest, ⟨value, leastLe, value.isLt, ?_⟩, isBelow, rfl⟩
    rw [partText, twoDigits_eq_padded (by omega)]

theorem fromSeconds_iff (least : Nat) (text : List Char) :
    FromSeconds least text ↔ ∃ clock : Clock, least ≤ clock.seconds ∧ text = clock.textFrom 3 := by
  rw [FromSeconds, isPart_append_iff (by decide)]
  constructor
  · rintro ⟨seconds, rest, leastLe, isRemainder, rfl⟩
    obtain ⟨clock, rfl⟩ := (isRemainder_iff rest).mp isRemainder
    exact ⟨{ clock with seconds }, leastLe, rfl⟩
  · rintro ⟨clock, leastLe, rfl⟩
    exact ⟨clock.seconds, _, leastLe, (isRemainder_iff _).mpr ⟨clock, rfl⟩, rfl⟩

theorem fromMinutes_iff (least : Nat) (text : List Char) :
    FromMinutes least text ↔ ∃ clock : Clock, least ≤ clock.minutes ∧ text = clock.textFrom 2 := by
  rw [FromMinutes, isPart_append_iff (by decide)]
  constructor
  · rintro ⟨minutes, rest, leastLe, fromSeconds, rfl⟩
    obtain ⟨clock, -, rfl⟩ := (fromSeconds_iff 0 rest).mp fromSeconds
    exact ⟨{ clock with minutes }, leastLe, rfl⟩
  · rintro ⟨clock, leastLe, rfl⟩
    exact ⟨clock.minutes, _, leastLe, (fromSeconds_iff 0 _).mpr ⟨clock, Nat.zero_le _, rfl⟩, rfl⟩

theorem fromHours_iff (least : Nat) (text : List Char) :
    FromHours least text ↔ ∃ clock : Clock, least ≤ clock.hours ∧ text = clock.textFrom 1 := by
  rw [FromHours, isPart_append_iff (by decide)]
  constructor
  · rintro ⟨hours, rest, leastLe, fromMinutes, rfl⟩
    obtain ⟨clock, -, rfl⟩ := (fromMinutes_iff 0 rest).mp fromMinutes
    exact ⟨{ clock with hours }, leastLe, rfl⟩
  · rintro ⟨clock, leastLe, rfl⟩
    exact ⟨clock.hours, _, leastLe, (fromMinutes_iff 0 _).mpr ⟨clock, Nat.zero_le _, rfl⟩, rfl⟩

theorem fromDays_iff (text : List Char) :
    FromDays text ↔ ∃ clock : Clock, 1 ≤ clock.days ∧ text = clock.textFrom 0 := by
  constructor
  · rintro ⟨_, rest, isPlain, fromHours, rfl⟩
    obtain ⟨days, positive, rfl⟩ := (isPlainNumeral_iff _).mp isPlain
    obtain ⟨clock, -, rfl⟩ := (fromHours_iff 0 rest).mp fromHours
    refine ⟨{ clock with days }, positive, ?_⟩
    rw [← Text.padded_one]
    rfl
  · rintro ⟨clock, positive, rfl⟩
    refine ⟨Text.padded 1 clock.days, clock.textFrom 1, ?_, ?_, rfl⟩
    · exact (isPlainNumeral_iff _).mpr ⟨clock.days, positive, Text.padded_one clock.days⟩
    · exact (fromHours_iff 0 _).mpr ⟨clock, Nat.zero_le _, rfl⟩

/-- A text of a magnitude is what some reading other than zero is written as. -/
theorem IsMagnitude.exists_reading {text : List Char} (isMagnitude : IsMagnitude text) :
    ∃ clock : Clock, clock.toMillis ≠ 0 ∧ clock.text = text := by
  -- A clause does not mention the parts before its first one, so they are set to zero.
  rcases isMagnitude with
    fromDays | fromHours | fromMinutes | fromSeconds | ⟨value, positive, bounded, rfl⟩
  · obtain ⟨clock, positive, rfl⟩ := (fromDays_iff text).mp fromDays
    exact clock.exists_text_eq_textFrom 0 (by simp) rfl (Nat.ne_of_gt positive)
  · obtain ⟨clock, positive, rfl⟩ := (fromHours_iff 1 text).mp fromHours
    exact { clock with days := 0 }.exists_text_eq_textFrom 1 (by simp [Clock.parts]) rfl
      (Nat.ne_of_gt positive)
  · obtain ⟨clock, positive, rfl⟩ := (fromMinutes_iff 1 text).mp fromMinutes
    exact { clock with days := 0, hours := 0 }.exists_text_eq_textFrom 2
      (by simp [Clock.parts]) rfl (Nat.ne_of_gt positive)
  · obtain ⟨clock, positive, rfl⟩ := (fromSeconds_iff 1 text).mp fromSeconds
    exact { clock with days := 0, hours := 0, minutes := 0 }.exists_text_eq_textFrom 3
      (by simp [Clock.parts]) rfl (Nat.ne_of_gt positive)
  · refine ⟨⟨0, 0, 0, 0, ⟨value, bounded⟩⟩, ?_, ?_⟩
    · simp only [Clock.toMillis]
      omega
    · rw [Clock.text_eq_padded (by simp [Clock.parts]), threeDigits_eq_padded bounded]

/-- The first part of a reading that is not zero decides the clause that its text falls under. -/
theorem isMagnitude_text {clock : Clock} (nonzero : clock.toMillis ≠ 0) :
    IsMagnitude clock.text := by
  rcases (Nat.eq_zero_or_pos clock.days).symm with someDays | noDays
  · rw [Clock.text_eq_textFrom 0 (by simp) rfl (Nat.ne_of_gt someDays)]
    exact .inl ((fromDays_iff _).mpr ⟨clock, someDays, rfl⟩)
  rcases (Nat.eq_zero_or_pos clock.hours).symm with someHours | noHours
  · rw [Clock.text_eq_textFrom 1 (by simp [Clock.parts, noDays]) rfl (Nat.ne_of_gt someHours)]
    exact .inr (.inl ((fromHours_iff 1 _).mpr ⟨clock, someHours, rfl⟩))
  rcases (Nat.eq_zero_or_pos clock.minutes).symm with someMinutes | noMinutes
  · rw [Clock.text_eq_textFrom 2 (by simp [Clock.parts, noDays, noHours]) rfl
      (Nat.ne_of_gt someMinutes)]
    exact .inr (.inr (.inl ((fromMinutes_iff 1 _).mpr ⟨clock, someMinutes, rfl⟩)))
  rcases (Nat.eq_zero_or_pos clock.seconds).symm with someSeconds | noSeconds
  · rw [Clock.text_eq_textFrom 3 (by simp [Clock.parts, noDays, noHours, noMinutes]) rfl
      (Nat.ne_of_gt someSeconds)]
    exact .inr (.inr (.inr (.inl ((fromSeconds_iff 1 _).mpr ⟨clock, someSeconds, rfl⟩))))
  · refine .inr (.inr (.inr (.inr ⟨clock.millis, ?_, clock.millis.isLt, ?_⟩)))
    · simp only [Clock.toMillis] at nonzero
      omega
    · rw [Clock.text_eq_padded (by simp [Clock.parts, noDays, noHours, noMinutes, noSeconds]),
        threeDigits_eq_padded clock.millis.isLt]

end Canonical

theorem durationText_natCast (magnitude : Nat) :
    durationText magnitude = String.ofList (Clock.ofMillis magnitude).text := by
  rw [durationText, if_neg (by omega), Int.natAbs_natCast]

theorem durationText_neg_natCast {magnitude : Nat} (nonzero : magnitude ≠ 0) :
    durationText (-magnitude) = String.ofList ('-' :: (Clock.ofMillis magnitude).text) := by
  rw [durationText, if_pos (by omega), Int.natAbs_neg, Int.natAbs_natCast]

namespace Canonical

theorem isMagnitude_ofMillis {magnitude : Nat} (nonzero : magnitude ≠ 0) :
    IsMagnitude (Clock.ofMillis magnitude).text := by
  apply isMagnitude_text
  rwa [Clock.toMillis_ofMillis]

theorem isCanonical_iff (text : String) :
    IsCanonical text.toList ↔ ∃ millis, durationText millis = text := by
  constructor
  · rintro (isZero | isMagnitude | ⟨rest, startsWithMinus, isMagnitude⟩)
    · refine ⟨0, String.toList_inj.mp ?_⟩
      rw [isZero]
      decide +kernel
    · obtain ⟨clock, -, written⟩ := isMagnitude.exists_reading
      refine ⟨clock.toMillis, ?_⟩
      rw [durationText_natCast, Clock.ofMillis_toMillis, written, String.ofList_toList]
    · obtain ⟨clock, nonzero, written⟩ := isMagnitude.exists_reading
      refine ⟨-clock.toMillis, ?_⟩
      rw [durationText_neg_natCast nonzero, Clock.ofMillis_toMillis, written, ← startsWithMinus,
        String.ofList_toList]
  · rintro ⟨millis, rfl⟩
    rcases Int.lt_trichotomy millis 0 with negative | rfl | positive
    · obtain ⟨magnitude, rfl⟩ := Int.exists_eq_neg_ofNat (Int.le_of_lt negative)
      have nonzero : magnitude ≠ 0 := by omega
      rw [durationText_neg_natCast nonzero, String.toList_ofList]
      exact .inr (.inr ⟨_, rfl, isMagnitude_ofMillis nonzero⟩)
    · left
      decide +kernel
    · obtain ⟨magnitude, rfl⟩ := Int.eq_ofNat_of_zero_le (Int.le_of_lt positive)
      rw [durationText_natCast, String.toList_ofList]
      exact .inr (.inl (isMagnitude_ofMillis (by omega)))

end Canonical

/--
The canonical texts are those that durations are written as, and each of them
in a cell gives the duration that is written that way.
-/
theorem range_durationText_eq_canonical :
    Set.range durationText = {text | Canonical.IsCanonical text.toList} ∧
      ∀ text : String, Canonical.IsCanonical text.toList →
        ∃ millis, Cell.millis text = .ok millis ∧ durationText millis = text := by
  constructor
  · ext text
    exact (Canonical.isCanonical_iff text).symm
  · intro text isCanonical
    obtain ⟨millis, rfl⟩ := (Canonical.isCanonical_iff text).mp isCanonical
    exact ⟨millis, Cell.millis_durationText millis, rfl⟩

/-- A negative text with a zero in the middle and a remainder. -/
theorem canonical_minus_one_day_five_seconds :
    Canonical.IsCanonical "-1d00h00m05s040".toList ∧
      ∃ millis, Cell.millis "-1d00h00m05s040" = .ok millis ∧
        durationText millis = "-1d00h00m05s040" := by
  have isWritten : "-1d00h00m05s040" ∈ Set.range durationText := ⟨-86405040, by decide +kernel⟩
  rw [range_durationText_eq_canonical.1] at isWritten
  exact ⟨isWritten, range_durationText_eq_canonical.2 _ isWritten⟩

end DurationCalc
