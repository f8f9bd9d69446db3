import DurationCalc.Proofs.ClosestCount

/-!
# Conversions without a remainder

A conversion goes through a whole number of milliseconds, and that number rarely
is what the span lasts: one quantum at thirty a second is taken for 33
milliseconds. Yet if a whole number of the target's quanta lasts as long as the
span, it is rounded to those same milliseconds, and so it is the count that comes
closest: its distance is zero.
-/

namespace DurationCalc

namespace Span

/-- A count at the target rate that lasts as long as the span is what the span is converted to. -/
theorem convert_eq_of_sameLength {span : Span} {target : Rate} {count : Int}
    (sameLength : span.count * target.perSecond = count * span.rate.perSecond) :
    span.convert target = ⟨count, target⟩ := by
  have sameMillis : span.millis = target.millisAt count := Rate.millisAt_eq_millisAt sameLength
  rw [convert, sameMillis, Rate.countAt_millisAt]

/--
If the span lasts a whole number of the target's quanta, its conversion is that
number: what the milliseconds in between lose is found again.
-/
theorem count_convert_of_dvd (span : Span) (target : Rate)
    (whole : (span.rate.perSecond : Int) ∣ span.count * target.perSecond) :
    (span.convert target).count = span.count * target.perSecond / span.rate.perSecond := by
  have sameLength : span.count * target.perSecond =
      span.count * target.perSecond / span.rate.perSecond * span.rate.perSecond :=
    (Int.ediv_mul_cancel whole).symm
  rw [convert_eq_of_sameLength sameLength]

/--
Seven frames before the start are 233 milliseconds at thirty a second and at
sixty, and eight film frames are 333 quanta of which a second has 999.
-/
theorem count_convert_of_dvd_frames :
    ((30 : Int) ∣ -7 * 60 ∧ ((Span.mk (-7) .thirtyFrames).convert .sixtyFrames).count = -14) ∧
      ((24 : Int) ∣ 8 * 999 ∧ ((Span.mk 8 ⟨24, by decide, by decide⟩).convert
        ⟨999, by decide, by decide⟩).count = 333) := by
  have beforeStart := count_convert_of_dvd ⟨-7, .thirtyFrames⟩ .sixtyFrames (by decide)
  have filmFrames := count_convert_of_dvd ⟨8, ⟨24, by decide, by decide⟩⟩
    ⟨999, by decide, by decide⟩ (by decide)
  exact ⟨⟨by decide, beforeStart⟩, ⟨by decide, filmFrames⟩⟩

/-- Without a whole number the closest one is taken: a film frame is one and a quarter of them. -/
example : ((Span.mk 1 ⟨24, by decide, by decide⟩).convert .thirtyFrames).count = 1 := by decide

end Span

end DurationCalc
