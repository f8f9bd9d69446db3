import DurationCalc.Rate
import DurationCalc.Rounding

/-!
# Spans

A span is a signed duration counted in the quanta of a rate. Between rates it is
converted through whole milliseconds: the millisecond value of a count is the
nearest one, halves away from zero, and the count for a millisecond value is the
one whose own millisecond value lies closest, the higher of two that lie equally
close.
-/

namespace DurationCalc

structure Span where
  count : Int
  rate : Rate
deriving DecidableEq

/-- The tenths of a millisecond in `count` quanta, cut off towards zero. -/
def Rate.tenthsAt (rate : Rate) (count : Int) : Int :=
  (10000 * count).tdiv rate.perSecond

/--
The whole millisecond nearest to `count` quanta, halves away from zero: five
tenths are added outward before the tenths are cut off.
-/
def Rate.millisAt (rate : Rate) (count : Int) : Int :=
  (rate.tenthsAt count + if count < 0 then -5 else 5).tdiv 10

/--
The lower of the two neighbouring counts that are in question for `millis`. The
quotient cut off towards zero is that count, unless its own millisecond value
already exceeds `millis`, as it may below zero; then it is the upper one.
-/
def Rate.countBelow (rate : Rate) (millis : Int) : Int :=
  let truncated := (millis * rate.perSecond).tdiv 1000
  if rate.millisAt truncated ≤ millis then truncated else truncated - 1

/--
The number of quanta whose millisecond value lies closest to `millis`, the
higher one on a tie.
-/
def Rate.countAt (rate : Rate) (millis : Int) : Int :=
  let below := rate.countBelow millis
  let above := below + 1
  if rate.millisAt above - millis > millis - rate.millisAt below then below else above

namespace Span

def ofMillis (millis : Int) : Span := ⟨millis, .milliseconds⟩

def millis (span : Span) : Int := span.rate.millisAt span.count

/-- The same span to the nearest whole millisecond, counted in milliseconds. -/
def toMilliseconds (span : Span) : Span := ofMillis span.millis

/-- The span at another rate whose millisecond value is closest. -/
def convert (span : Span) (target : Rate) : Span := ⟨target.countAt span.millis, target⟩

end Span

/-- At 400 quanta per second one quantum is two and a half milliseconds: the half goes outward. -/
example : (⟨1, ⟨400, by decide, by decide⟩⟩ : Span).millis = 3 ∧
    (⟨-1, ⟨400, by decide, by decide⟩⟩ : Span).millis = -3 := by decide

/-- Four milliseconds lie as far from three as from five: the higher count wins, on both sides. -/
example : ((Span.ofMillis 4).convert ⟨400, by decide, by decide⟩).count = 2 ∧
    ((Span.ofMillis (-4)).convert ⟨400, by decide, by decide⟩).count = -1 := by decide

end DurationCalc
