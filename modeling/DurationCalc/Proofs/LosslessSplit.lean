import DurationCalc.Lexeme.Lossless
import Mathlib.Data.List.Chain

/-!
# The only lossless split

Delimiters and texts make up a given text in one way only, as long as no two texts
stand next to each other: a delimiter is a piece of its own, and a text reaches up
to the delimiters around it. Cutting finds that way, so its result is the only list
of lexemes that loses nothing but the blanks. It makes no difference when the blanks
are deleted. If it is done after cutting, a text of blanks vanishes, but the
delimiters around it stay and keep the next texts apart.
-/

namespace DurationCalc.Lexeme

/-- Delimiters and texts, with at least one delimiter between any two texts. -/
inductive IsCut : List (List Char) → Prop where
  | nil : IsCut []
  | single {piece : List Char} {later : List (List Char)} :
      IsSingle piece →
      IsCut later →
      IsCut (piece :: later)
  | lastRun {piece : List Char} :
      IsRun piece →
      IsCut [piece]
  | run {piece next : List Char} {later : List (List Char)} :
      IsRun piece →
      IsSingle next →
      IsCut later →
      IsCut (piece :: next :: later)

theorem IsRun.cons {piece : List Char} (isRun : IsRun piece) {character : Char}
    (joins : isDelimiter character = false) : IsRun (character :: piece) :=
  ⟨List.cons_ne_nil _ _, List.forall_mem_cons.mpr ⟨joins, isRun.2⟩⟩

theorem isRun_singleton {character : Char} (joins : isDelimiter character = false) :
    IsRun [character] :=
  ⟨List.cons_ne_nil _ _, by simpa using joins⟩

theorem IsSingle.attach_cons {piece : List Char} (isSingle : IsSingle piece) (character : Char)
    (later : List (List Char)) :
    attach character (piece :: later) = [character] :: piece :: later := by
  obtain ⟨delimiter, isOne, rfl⟩ := isSingle
  exact attach_append_delimiter isOne character [] later

namespace IsCut

theorem attach {later : List (List Char)} (isCut : IsCut later) (character : Char) :
    IsCut (attach character later) := by
  cases delimiter : isDelimiter character with
  | true =>
      rw [attach_of_isDelimiter delimiter]
      exact .single ⟨character, delimiter, rfl⟩ isCut
  | false =>
      cases isCut with
      | nil => exact .lastRun (isRun_singleton delimiter)
      | single isSingle rest =>
          rw [isSingle.attach_cons]
          exact .run (isRun_singleton delimiter) isSingle rest
      | lastRun isRun =>
          rw [isRun.attach_cons delimiter]
          exact .lastRun (isRun.cons delimiter)
      | run isRun isSingle rest =>
          rw [isRun.attach_cons delimiter]
          exact .run (isRun.cons delimiter) isSingle rest

theorem pieces_flatten {cut : List (List Char)} (isCut : IsCut cut) :
    pieces cut.flatten = cut := by
  induction isCut with
  | nil => rfl
  | @single _ later isSingle _ ih =>
      obtain ⟨character, delimiter, rfl⟩ := isSingle
      have attached : pieces ([character] :: later).flatten =
          Lexeme.attach character (pieces later.flatten) := rfl
      rw [attached, ih, attach_of_isDelimiter delimiter]
  | lastRun isRun =>
      rw [List.flatten_singleton, isRun.pieces_eq]
  | run isRun isSingle _ ih =>
      obtain ⟨character, delimiter, rfl⟩ := isSingle
      rw [List.flatten_cons, List.flatten_cons, List.singleton_append,
        pieces_append_delimiter delimiter, isRun.pieces_eq, ih]
      rfl

theorem single_or_run {cut : List (List Char)} (isCut : IsCut cut) :
    ∀ piece ∈ cut, IsSingle piece ∨ IsRun piece := by
  induction isCut with
  | nil => exact List.forall_mem_nil _
  | single isSingle _ ih => exact List.forall_mem_cons.mpr ⟨.inl isSingle, ih⟩
  | lastRun isRun => exact List.forall_mem_singleton.mpr (.inr isRun)
  | run isRun isSingle _ ih =>
      exact List.forall_mem_cons.mpr ⟨.inr isRun, List.forall_mem_cons.mpr ⟨.inl isSingle, ih⟩⟩

theorem isChain {cut : List (List Char)} (isCut : IsCut cut) :
    cut.IsChain fun left right => IsSingle left ∨ IsSingle right := by
  induction isCut with
  | nil => exact .nil
  | single isSingle _ ih => exact List.isChain_cons.mpr ⟨fun _ _ => .inl isSingle, ih⟩
  | lastRun => exact .singleton _
  | run _ isSingle _ ih =>
      have fromNext := List.isChain_cons.mpr ⟨fun _ _ => .inl isSingle, ih⟩
      exact .cons_cons (.inr isSingle) fromNext

theorem of_isChain {cut : List (List Char)}
    (singleOrRun : ∀ piece ∈ cut, IsSingle piece ∨ IsRun piece)
    (chain : cut.IsChain fun left right => IsSingle left ∨ IsSingle right) : IsCut cut := by
  induction cut using List.twoStepInduction with
  | nil => exact .nil
  | singleton piece =>
      rcases singleOrRun piece (by simp) with isSingle | isRun
      · exact .single isSingle .nil
      · exact .lastRun isRun
  | cons_cons piece next later ihLater ihNext =>
      rw [List.isChain_cons_cons] at chain
      have nextSingleOrRun := (List.forall_mem_cons.mp singleOrRun).2
      have startsSingle (isSingle : IsSingle piece) : IsCut (piece :: next :: later) :=
        .single isSingle (ihNext next nextSingleOrRun chain.2)
      rcases singleOrRun piece List.mem_cons_self with isSingle | isRun
      · exact startsSingle isSingle
      · -- A text needs a delimiter after it, and behind that one the rest is a cut again.
        rcases chain.1 with isSingle | nextSingle
        · exact startsSingle isSingle
        · exact .run isRun nextSingle
            (ihLater (List.forall_mem_cons.mp nextSingleOrRun).2 chain.2.tail)

end IsCut

theorem isCut_pieces (characters : List Char) : IsCut (pieces characters) := by
  induction characters with
  | nil => exact .nil
  | cons character rest ih => exact ih.attach character

theorem isSplit_iff (text : List Char) (cut : List (List Char)) :
    IsSplit text cut ↔ cut.flatten = Text.strip text ∧ IsCut cut := by
  constructor
  · intro isSplit
    refine ⟨isSplit.flatten_eq, .of_isChain isSplit.single_or_run ?_⟩
    rw [List.isChain_iff_forall_rel_of_append_cons_cons]
    exact fun left right before after => isSplit.neighbours before left right after
  · rintro ⟨flattenEq, isCut⟩
    have chain := isCut.isChain
    rw [List.isChain_iff_forall_rel_of_append_cons_cons] at chain
    exact ⟨flattenEq, isCut.single_or_run, fun _ _ _ _ whole => chain whole⟩

theorem isSplit_iff_eq_pieces (text : List Char) (cut : List (List Char)) :
    IsSplit text cut ↔ cut = pieces (Text.strip text) := by
  rw [isSplit_iff]
  constructor
  · rintro ⟨flattenEq, isCut⟩
    rw [← flattenEq, isCut.pieces_flatten]
  · rintro rfl
    exact ⟨flatten_pieces _, isCut_pieces _⟩

theorem map_toList_split (text : String) :
    (split text).map String.toList = pieces (Text.strip text.toList) := by
  rw [split, List.map_map]
  exact List.map_id'' (fun _ => String.toList_ofList) _

theorem flatten_split (text : String) :
    ((split text).map String.toList).flatten = Text.strip text.toList := by
  rw [map_toList_split, flatten_pieces]

/-- Delete the blanks from every piece, and the pieces of which nothing is left. -/
def stripPieces (cut : List (List Char)) : List (List Char) :=
  (cut.map Text.strip).filter fun piece => !piece.isEmpty

theorem flatten_stripPieces (cut : List (List Char)) :
    (stripPieces cut).flatten = Text.strip cut.flatten := by
  rw [stripPieces, List.flatten_filter_not_isEmpty, Text.strip, List.filter_flatten]
  rfl

theorem stripPieces_cons (piece : List Char) (later : List (List Char)) :
    stripPieces (piece :: later) =
      if Text.strip piece = [] then stripPieces later
      else Text.strip piece :: stripPieces later := by
  simp [stripPieces, List.filter_cons]

theorem IsSingle.stripPieces_cons {piece : List Char} (isSingle : IsSingle piece)
    (later : List (List Char)) : stripPieces (piece :: later) = piece :: stripPieces later := by
  obtain ⟨character, delimiter, rfl⟩ := isSingle
  have kept : Text.strip [character] = [character] := by
    rw [Text.strip_cons, isBlank_of_isDelimiter delimiter]
    rfl
  rw [Lexeme.stripPieces_cons, kept, if_neg (List.cons_ne_nil _ _)]

theorem IsRun.strip {piece : List Char} (isRun : IsRun piece)
    (nonempty : Text.strip piece ≠ []) : IsRun (Text.strip piece) :=
  ⟨nonempty, fun character isThere => isRun.2 character (List.mem_of_mem_filter isThere)⟩

theorem IsCut.stripPieces {cut : List (List Char)} (isCut : IsCut cut) :
    IsCut (stripPieces cut) := by
  induction isCut with
  | nil => exact .nil
  | single isSingle _ ih =>
      rw [isSingle.stripPieces_cons]
      exact .single isSingle ih
  | lastRun isRun =>
      rw [stripPieces_cons]
      split
      · exact .nil
      · exact .lastRun (isRun.strip ‹_›)
  | run isRun isSingle _ ih =>
      rw [stripPieces_cons, isSingle.stripPieces_cons]
      split
      · exact .single isSingle ih
      · exact .run (isRun.strip ‹_›) isSingle ih

theorem pieces_strip (characters : List Char) :
    pieces (Text.strip characters) = stripPieces (pieces characters) := by
  have sameText := flatten_stripPieces (pieces characters)
  rw [flatten_pieces] at sameText
  rw [← sameText, (isCut_pieces characters).stripPieces.pieces_flatten]

/--
A list of lexemes is the split of a text exactly when it loses nothing but blanks,
holds only delimiters and texts without any, and has no two texts side by side. The
blanks may be deleted from the pieces instead of from the text, and what stands on
the two sides of a delimiter is split separately.
-/
theorem split_only_lossless :
    (∀ (text : String) (lexemes : List String),
      IsSplit text.toList (lexemes.map String.toList) ↔ lexemes = split text) ∧
      (∀ text : String,
        split text = (stripPieces (pieces text.toList)).map String.ofList) ∧
      ∀ (left right : String) (delimiter : Char), isDelimiter delimiter = true →
        split (left ++ String.singleton delimiter ++ right) =
          split left ++ [String.singleton delimiter] ++ split right := by
  refine ⟨?_, ?_, ?_⟩
  · intro text lexemes
    rw [isSplit_iff_eq_pieces, ← map_toList_split]
    exact (List.map_injective_iff.mpr fun _ _ => String.toList_inj.mp).eq_iff
  · intro text
    rw [split, pieces_strip]
  · intro left right delimiter isOne
    rw [split_append_delimiter isOne, List.append_assoc, List.singleton_append]

/-- A text of blanks between two delimiters vanishes, and the text after them stays apart. -/
theorem split_only_lossless_around_blanks :
    isDelimiter 'H' = true ∧
      split ("1 2" ++ String.singleton 'H' ++ " \u3000+ 0 5") =
        split "1 2" ++ [String.singleton 'H'] ++ split " \u3000+ 0 5" ∧
      split ("1 2" ++ String.singleton 'H' ++ " \u3000+ 0 5") = ["12", "H", "+", "05"] := by
  have isOne : isDelimiter 'H' = true := rfl
  exact ⟨isOne, split_only_lossless.2.2 "1 2" " \u3000+ 0 5" 'H' isOne, by decide +kernel⟩

end DurationCalc.Lexeme
