import DurationCalc.Text.Numeral
import DurationCalc.TimeUnit

/-!
# Clock readings and the canonical text of a duration

A whole number of milliseconds has one clock reading: days, then hours, minutes,
seconds and milliseconds within their ranges. Its canonical text writes the
reading from the first part that is not zero. Days are not padded, the other
parts have two digits, and every part after the first is written even when it is
zero. A remainder of milliseconds has three digits and is left out when it is
zero, unless nothing else was written. A minus sign precedes the text of a
negative duration, so zero is `000` and never `-000`.
-/

namespace DurationCalc

/-- A duration split into days and the parts of a day. -/
structure Clock where
  days : Nat
  hours : Fin 24
  minutes : Fin 60
  seconds : Fin 60
  millis : Fin 1000
deriving DecidableEq

namespace Clock

def ofMillis (total : Nat) : Clock where
  days := total / 86400000
  hours := ⟨total / 3600000 % 24, Nat.mod_lt _ (by decide)⟩
  minutes := ⟨total / 60000 % 60, Nat.mod_lt _ (by decide)⟩
  seconds := ⟨total / 1000 % 60, Nat.mod_lt _ (by decide)⟩
  millis := ⟨total % 1000, Nat.mod_lt _ (by decide)⟩

def toMillis (clock : Clock) : Nat :=
  clock.days * 86400000 + clock.hours * 3600000 + clock.minutes * 60000 +
    clock.seconds * 1000 + clock.millis

/-- The whole parts of a reading, largest first: the amount, its least width and its unit. -/
def parts (clock : Clock) : List (Nat × Nat × TimeUnit) :=
  [(clock.days, 1, .day), (clock.hours, 2, .hour),
   (clock.minutes, 2, .minute), (clock.seconds, 2, .second)]

/-- The parts that are written: all from the first one that is not zero. -/
def writtenParts (clock : Clock) : List (Nat × Nat × TimeUnit) :=
  clock.parts.dropWhile fun part => part.1 == 0

/-- One part as text: the padded amount and the letter of its unit. -/
def partText (part : Nat × Nat × TimeUnit) : List Char :=
  Text.padded part.2.1 part.1 ++ [part.2.2.letter]

def text (clock : Clock) : List Char :=
  clock.writtenParts.flatMap partText ++
    if clock.millis.val = 0 ∧ clock.writtenParts ≠ [] then []
    else Text.padded 3 clock.millis

@[simp] theorem toMillis_ofMillis (total : Nat) : (ofMillis total).toMillis = total := by
  simp only [toMillis, ofMillis]
  omega

@[simp] theorem ofMillis_toMillis (clock : Clock) : ofMillis clock.toMillis = clock := by
  obtain ⟨days, ⟨hours, _⟩, ⟨minutes, _⟩, ⟨seconds, _⟩, ⟨millis, _⟩⟩ := clock
  simp only [toMillis, ofMillis, mk.injEq, Fin.mk.injEq]
  omega

end Clock

/-- The canonical text of a duration in milliseconds. -/
def durationText (millis : Int) : String :=
  String.ofList
    (if millis < 0 then '-' :: (Clock.ofMillis millis.natAbs).text
     else (Clock.ofMillis millis.natAbs).text)

example : durationText 0 = "000" := by decide +kernel
example : durationText 3600000 = "01h00m00s" := by decide +kernel
example : durationText (-90061001) = "-1d01h01m01s001" := by decide +kernel

end DurationCalc
