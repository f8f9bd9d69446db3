/-!
# Cutting texts at a character

A text is cut at every occurrence of a separator, or at the first character of a
kind. Nothing but separators is lost.
-/

namespace DurationCalc.Text

/-- The pieces between the separators; there is always one more piece than separators. -/
def splitAtEach (separator : Char) : List Char → List (List Char)
  | [] => [[]]
  | character :: rest =>
      if character = separator then [] :: splitAtEach separator rest
      else match splitAtEach separator rest with
      | [] => [[character]]
      | piece :: later => (character :: piece) :: later

def joinWith (separator : List Char) : List (List Char) → List Char
  | [] => []
  | [piece] => piece
  | piece :: later => piece ++ separator ++ joinWith separator later

/-- What stands before the first character of a kind, and what stands after it, if there is one. -/
def cutAtFirst (kind : Char → Bool) (characters : List Char) : List Char × Option (List Char) :=
  match characters.dropWhile fun character => !kind character with
  | [] => (characters, none)
  | _ :: rest => (characters.takeWhile fun character => !kind character, some rest)

/-- The lines of a text. Each ends with a line feed, which the last one may lack. -/
def lines (characters : List Char) : List (List Char) :=
  let pieces := splitAtEach '\n' characters
  if pieces.getLast? = some [] then pieces.dropLast else pieces

/-- A line without the carriage return that may stand before its line feed. -/
def withoutReturn (line : List Char) : List Char :=
  if line.getLast? = some '\r' then line.dropLast else line

theorem splitAtEach_ne_nil (separator : Char) (characters : List Char) :
    splitAtEach separator characters ≠ [] := by
  cases characters with
  | nil => simp [splitAtEach]
  | cons character rest =>
      simp only [splitAtEach]
      split
      · simp
      · split <;> simp

theorem splitAtEach_append_separator (separator : Char) (left right : List Char) :
    splitAtEach separator (left ++ separator :: right) =
      splitAtEach separator left ++ splitAtEach separator right := by
  induction left with
  | nil => simp [splitAtEach]
  | cons character rest ih =>
      rw [List.cons_append, splitAtEach, ih, splitAtEach]
      split
      · rfl
      · cases pieces : splitAtEach separator rest with
        | nil => exact absurd pieces (splitAtEach_ne_nil separator rest)
        | cons piece later => rfl

theorem splitAtEach_of_not_mem {separator : Char} {characters : List Char}
    (noneThere : separator ∉ characters) : splitAtEach separator characters = [characters] := by
  induction characters with
  | nil => rfl
  | cons character rest ih =>
      rw [List.mem_cons, not_or] at noneThere
      rw [splitAtEach, if_neg (Ne.symm noneThere.1), ih noneThere.2]

/-- A line feed ends a line whatever follows it. -/
theorem lines_append_feed (left right : List Char) :
    lines (left ++ '\n' :: right) = splitAtEach '\n' left ++ lines right := by
  have someRight := splitAtEach_ne_nil '\n' right
  have sameLast : (splitAtEach '\n' left ++ splitAtEach '\n' right).getLast? =
      (splitAtEach '\n' right).getLast? := by
    rw [List.getLast?_append, List.getLast?_eq_some_getLast someRight, Option.some_or]
  rw [lines, splitAtEach_append_separator, sameLast, lines]
  split
  · exact List.dropLast_append_of_ne_nil someRight
  · rfl

theorem lines_of_not_mem {line : List Char} (nonempty : line ≠ []) (noFeed : '\n' ∉ line) :
    lines line = [line] := by
  rw [lines, splitAtEach_of_not_mem noFeed]
  simp [nonempty]

example : lines "a\n\nb".toList = [['a'], [], ['b']] := by decide +kernel
example : lines "a\n".toList = [['a']] ∧ lines [] = [] := by decide +kernel

end DurationCalc.Text
