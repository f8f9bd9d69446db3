/-!
# Blank characters

The characters that count as white space in a duration text are those with the
Unicode property White_Space. Blanks never matter inside an expression: they are
deleted, so that `1 000 s` reads as `1000s`. They matter at the ends of a rate,
where they are trimmed.
-/

namespace DurationCalc.Text

/-- The code points with the property White_Space, as closed ranges in increasing order. -/
def blankRanges : List (Nat × Nat) :=
  [(0x0009, 0x000D), (0x0020, 0x0020), (0x0085, 0x0085), (0x00A0, 0x00A0),
   (0x1680, 0x1680), (0x2000, 0x200A), (0x2028, 0x2029), (0x202F, 0x202F),
   (0x205F, 0x205F), (0x3000, 0x3000)]

/-- A character is blank when its code point lies in one of the ranges. -/
def isBlank (character : Char) : Bool :=
  blankRanges.any fun range => range.1 ≤ character.toNat && character.toNat ≤ range.2

/-- The characters that are not blank, in order. -/
def strip (characters : List Char) : List Char :=
  characters.filter fun character => !isBlank character

def trimStart (characters : List Char) : List Char :=
  characters.dropWhile isBlank

def trim (characters : List Char) : List Char :=
  (trimStart (trimStart characters).reverse).reverse

/-- A text is blank when it holds nothing but blanks; the empty text is blank. -/
def isBlankText (text : String) : Bool :=
  text.toList.all isBlank

@[simp] theorem strip_nil : strip [] = [] := rfl

@[simp] theorem strip_append (left right : List Char) :
    strip (left ++ right) = strip left ++ strip right :=
  List.filter_append left right

theorem strip_cons (character : Char) (rest : List Char) :
    strip (character :: rest) =
      if isBlank character then strip rest else character :: strip rest := by
  cases blank : isBlank character <;> simp [strip, blank]

theorem strip_eq_nil_iff (characters : List Char) :
    strip characters = [] ↔ characters.all isBlank = true := by
  simp [strip]

@[simp] theorem strip_strip (characters : List Char) :
    strip (strip characters) = strip characters := by
  simp [strip]

theorem trimStart_eq_self {characters : List Char}
    (noBlank : ∀ character ∈ characters, isBlank character = false) :
    trimStart characters = characters := by
  cases characters with
  | nil => rfl
  | cons first rest => simp [trimStart, noBlank first List.mem_cons_self]

theorem trim_eq_self {characters : List Char}
    (noBlank : ∀ character ∈ characters, isBlank character = false) :
    trim characters = characters := by
  have noBlankReversed : ∀ character ∈ characters.reverse, isBlank character = false := by
    intro character isThere
    exact noBlank character (List.mem_reverse.mp isThere)
  rw [trim, trimStart_eq_self noBlank, trimStart_eq_self noBlankReversed, List.reverse_reverse]

/-- Trimming takes away the blanks around a text that has none inside. -/
theorem trim_append_append {before core after : List Char} (blankBefore : before.all isBlank = true)
    (noBlank : ∀ character ∈ core, isBlank character = false)
    (blankAfter : after.all isBlank = true) : trim (before ++ core ++ after) = core := by
  rw [List.all_eq_true] at blankBefore blankAfter
  have blankReversed : ∀ character ∈ after.reverse, isBlank character = true := by
    intro character isThere
    exact blankAfter character (List.mem_reverse.mp isThere)
  have noBlankReversed : ∀ character ∈ core.reverse, isBlank character = false := by
    intro character isThere
    exact noBlank character (List.mem_reverse.mp isThere)
  have startTrimmed : trimStart (before ++ core ++ after) = trimStart (core ++ after) := by
    rw [List.append_assoc, trimStart, List.dropWhile_append_of_pos blankBefore, trimStart]
  rw [trim, startTrimmed]
  cases core with
  | nil =>
      have nothingLeft : trimStart (after ++ []) = [] := List.dropWhile_append_of_pos blankAfter
      rw [List.append_nil] at nothingLeft
      rw [List.nil_append, nothingLeft]
      rfl
  | cons first rest =>
      have startsVisible : trimStart (first :: rest ++ after) = first :: rest ++ after :=
        List.dropWhile_cons_of_neg (by simp [noBlank first List.mem_cons_self])
      rw [startsVisible, List.reverse_append, trimStart,
        List.dropWhile_append_of_pos blankReversed]
      exact (congrArg List.reverse (trimStart_eq_self noBlankReversed)).trans
        (List.reverse_reverse _)

/-- What trimming takes away are blanks at both ends. -/
theorem exists_append_trim_append (characters : List Char) :
    ∃ before after, before.all isBlank = true ∧ after.all isBlank = true ∧
      characters = before ++ trim characters ++ after := by
  have atStart := List.takeWhile_append_dropWhile (p := isBlank) (l := characters)
  have atEnd := List.takeWhile_append_dropWhile (p := isBlank) (l := (trimStart characters).reverse)
  have ended := congrArg List.reverse atEnd
  rw [List.reverse_append, List.reverse_reverse] at ended
  refine ⟨characters.takeWhile isBlank,
    ((trimStart characters).reverse.takeWhile isBlank).reverse, List.all_takeWhile, ?_, ?_⟩
  · rw [List.all_reverse]
    exact List.all_takeWhile
  · rw [List.append_assoc, trim, trimStart, ended]
    exact atStart.symm

theorem isBlank_of_isDigit {character : Char} (digit : character.isDigit = true) :
    isBlank character = false := by
  rw [Char.isDigit_iff_toNat] at digit
  simp [isBlank, blankRanges] at digit ⊢
  omega

/-- White space of the ASCII range is blank. -/
example : " \t\n\r".toList.all isBlank = true := by decide

/-- The zero-width space and the byte order mark are no white space. -/
example : isBlank '\u200b' = false ∧ isBlank '\ufeff' = false := by decide

end DurationCalc.Text
