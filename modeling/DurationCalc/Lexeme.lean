import DurationCalc.Text.Blank

/-!
# Lexemes

A text of expressions is cut into lexemes before anything is validated.
Operators, the comma and the unit letters stand alone; what lies between two of
them is one lexeme. Blanks separate nothing: they are deleted, so `1 2h` has the
lexemes `12` and `h`.
-/

namespace DurationCalc.Lexeme

/-- The characters that are lexemes by themselves. -/
def isDelimiter (character : Char) : Bool :=
  ['+', '-', ',', 'D', 'd', 'H', 'h', 'M', 'm', 'S', 's'].contains character

/-- A piece that a further character must not be joined to. -/
def isClosed : List Char → Bool
  | [] => true
  | first :: _ => isDelimiter first

/-- Put one character before a list of pieces, joining it to the first piece if neither is a delimiter. -/
def attach (character : Char) : List (List Char) → List (List Char)
  | [] => [[character]]
  | piece :: later =>
      if isDelimiter character || isClosed piece then [character] :: piece :: later
      else (character :: piece) :: later

/-- Cut a text without blanks: delimiters stand alone, the other characters in maximal runs. -/
def pieces : List Char → List (List Char)
  | [] => []
  | character :: rest => attach character (pieces rest)

def split (text : String) : List String :=
  (pieces (Text.strip text.toList)).map String.ofList

@[simp] theorem split_empty : split "" = [] := rfl

@[simp] theorem flatten_attach (character : Char) (later : List (List Char)) :
    (attach character later).flatten = character :: later.flatten := by
  cases later with
  | nil => rfl
  | cons piece later =>
      simp only [attach]
      split <;> simp

@[simp] theorem flatten_pieces (characters : List Char) :
    (pieces characters).flatten = characters := by
  induction characters with
  | nil => rfl
  | cons character rest ih => simp [pieces, ih]

theorem attach_of_isDelimiter {character : Char} (delimiter : isDelimiter character = true)
    (later : List (List Char)) : attach character later = [character] :: later := by
  cases later with
  | nil => rfl
  | cons piece later => simp [attach, delimiter]

/-- Nothing is attached to a delimiter, so more pieces may follow one without a change. -/
theorem attach_append_delimiter {delimiter : Char} (isOne : isDelimiter delimiter = true)
    (character : Char) (left right : List (List Char)) :
    attach character (left ++ [delimiter] :: right) =
      attach character left ++ [delimiter] :: right := by
  cases left with
  | nil => simp [attach, isClosed, isOne]
  | cons piece later =>
      simp only [List.cons_append, attach]
      split <;> rfl

/-- A text is cut at a delimiter independently of what stands on its two sides. -/
theorem pieces_append_delimiter {delimiter : Char} (isOne : isDelimiter delimiter = true)
    (left right : List Char) :
    pieces (left ++ delimiter :: right) = pieces left ++ [delimiter] :: pieces right := by
  induction left with
  | nil => exact attach_of_isDelimiter isOne (pieces right)
  | cons character rest ih =>
      rw [List.cons_append, pieces, ih, attach_append_delimiter isOne, pieces]

/-- What was checked of the eleven delimiters holds of each. -/
theorem holds_of_isDelimiter (property : Char → Bool)
    (checked : ['+', '-', ',', 'D', 'd', 'H', 'h', 'M', 'm', 'S', 's'].all property = true)
    {character : Char} (delimiter : isDelimiter character = true) : property character = true :=
  List.all_eq_true.mp checked character (List.contains_iff_mem.mp delimiter)

theorem isBlank_of_isDelimiter {character : Char} (delimiter : isDelimiter character = true) :
    Text.isBlank character = false := by
  have visible := holds_of_isDelimiter (fun one => !Text.isBlank one) rfl delimiter
  simpa using visible

theorem isDelimiter_of_isDigit {character : Char} (digit : character.isDigit = true) :
    isDelimiter character = false := by
  apply Bool.eq_false_iff.mpr
  intro delimiter
  have noDigit := holds_of_isDelimiter (fun one => !one.isDigit) rfl delimiter
  simp [digit] at noDigit

theorem split_eq_of_strip_eq {first second : String}
    (same : Text.strip first.toList = Text.strip second.toList) : split first = split second := by
  rw [split, same, split]

theorem split_append_delimiter {delimiter : Char} (isOne : isDelimiter delimiter = true)
    (left right : String) :
    split (left ++ String.singleton delimiter ++ right) =
      split left ++ String.singleton delimiter :: split right := by
  have kept : Text.strip (delimiter :: right.toList) = delimiter :: Text.strip right.toList := by
    simp [Text.strip_cons, isBlank_of_isDelimiter isOne]
  calc split (left ++ String.singleton delimiter ++ right)
      = (pieces (Text.strip left.toList ++ delimiter :: Text.strip right.toList)).map
          String.ofList := by
        simp [split, kept]
    _ = split left ++ String.singleton delimiter :: split right := by
        rw [pieces_append_delimiter isOne, List.map_append, List.map_cons,
          String.singleton_eq_ofList, split, split]

example : split "30h- 12m+ 2s300, x" =
    ["30", "h", "-", "12", "m", "+", "2", "s", "300", ",", "x"] := by decide +kernel

end DurationCalc.Lexeme
