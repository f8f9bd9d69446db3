import DurationCalc.Lexeme
import DurationCalc.Text.Numeral

/-!
# Lossless splits

What it means to cut a text into lexemes, said without a procedure: nothing but
blanks is lost, each piece is one delimiter or a text without any, and two texts
never stand next to each other.
-/

namespace DurationCalc.Lexeme

def IsSingle (piece : List Char) : Prop :=
  ∃ character, isDelimiter character = true ∧ piece = [character]

/-- The piece is a text that holds no delimiter. -/
def IsRun (piece : List Char) : Prop :=
  piece ≠ [] ∧ ∀ character ∈ piece, isDelimiter character = false

theorem IsRun.attach_cons {piece : List Char} (isRun : IsRun piece) {character : Char}
    (joins : isDelimiter character = false) (later : List (List Char)) :
    attach character (piece :: later) = (character :: piece) :: later := by
  obtain ⟨nonempty, noDelimiter⟩ := isRun
  cases piece with
  | nil => exact absurd rfl nonempty
  | cons first rest =>
      have isOpen : isClosed (first :: rest) = false := noDelimiter first List.mem_cons_self
      rw [attach, joins, isOpen]
      rfl

theorem IsRun.pieces_eq {piece : List Char} (isRun : IsRun piece) : pieces piece = [piece] := by
  obtain ⟨nonempty, noDelimiter⟩ := isRun
  induction piece with
  | nil => exact absurd rfl nonempty
  | cons character rest ih =>
      rw [List.forall_mem_cons] at noDelimiter
      cases rest with
      | nil => rfl
      | cons second later =>
          have restIsRun : IsRun (second :: later) := ⟨List.cons_ne_nil _ _, noDelimiter.2⟩
          rw [pieces, ih restIsRun.1 restIsRun.2, restIsRun.attach_cons noDelimiter.1]

theorem isRun_of_isNumeral {characters : List Char}
    (isNumeral : Text.isNumeral characters = true) : IsRun characters := by
  rw [Text.isNumeral_iff] at isNumeral
  exact ⟨isNumeral.1, fun character isThere =>
    isDelimiter_of_isDigit (isNumeral.2 character isThere)⟩

theorem split_numeral {characters : List Char} (isNumeral : Text.isNumeral characters = true) :
    split (String.ofList characters) = [String.ofList characters] := by
  have noBlank : Text.strip characters = characters := by
    rw [Text.isNumeral_iff] at isNumeral
    apply List.filter_eq_self.mpr
    intro character isThere
    simp [Text.isBlank_of_isDigit (isNumeral.2 character isThere)]
  rw [split, String.toList_ofList, noBlank, (isRun_of_isNumeral isNumeral).pieces_eq]
  rfl

/-- The pieces are the text without its blanks, cut at the delimiters and nowhere else. -/
structure IsSplit (text : List Char) (cut : List (List Char)) : Prop where
  /-- Put together the pieces are the text without its blanks. -/
  flatten_eq : cut.flatten = Text.strip text
  /-- Each piece is a delimiter or a text without any. -/
  single_or_run : ∀ piece ∈ cut, IsSingle piece ∨ IsRun piece
  /-- Of two neighbours at least one is a delimiter. -/
  neighbours : ∀ before left right after,
    cut = before ++ left :: right :: after → IsSingle left ∨ IsSingle right

end DurationCalc.Lexeme
