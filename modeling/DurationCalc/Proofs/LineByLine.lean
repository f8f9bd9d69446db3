import DurationCalc.Program
import DurationCalc.Proofs.RateOption

/-!
# Sessions line by line

In a session every line of the input is a calculation of its own. What is printed
for a line depends on nothing before it, and a line that cannot be read is
complained about and passed over. The carriage return of a line end is a blank,
so it makes no difference whether it is cut off with the line feed.
-/

namespace DurationCalc

/--
The lines of a text. A line feed ends a line, together with the carriage return
that may stand before it; the last line may lack its end.
-/
inductive HasLines : String → List String → Prop
  | nothing : HasLines "" []
  | unended {line : String} (nonempty : line ≠ "") (noFeed : '\n' ∉ line.toList) :
      HasLines line [line]
  | fed {line rest : String} {later : List String} (noFeed : '\n' ∉ line.toList)
      (noReturn : line.toList.getLast? ≠ some '\r') (goesOn : HasLines rest later) :
      HasLines (line ++ "\n" ++ rest) (line :: later)
  | returned {line rest : String} {later : List String} (noFeed : '\n' ∉ line.toList)
      (goesOn : HasLines rest later) :
      HasLines (line ++ "\r\n" ++ rest) (line :: later)

namespace HasLines

theorem feed {rest : String} {later : List String} (goesOn : HasLines rest later) :
    HasLines ("\n" ++ rest) ("" :: later) := by
  have noFeed : '\n' ∉ ("" : String).toList := by decide
  have noReturn : ("" : String).toList.getLast? ≠ some '\r' := by decide
  simpa using fed noFeed noReturn goesOn

/-- A character before a text joins the first line, or is the return of its end. -/
theorem exists_singleton_append {character : Char} (notFeed : character ≠ '\n') {text : String}
    {lines : List String} (reading : HasLines text lines) :
    ∃ longer, HasLines (String.singleton character ++ text) longer := by
  have joins {line : String} (noFeed : '\n' ∉ line.toList) :
      '\n' ∉ (String.singleton character ++ line).toList := by
    simp [notFeed.symm, noFeed]
  cases reading with
  | nothing =>
      refine ⟨_, unended ?_ (joins (by decide))⟩
      simp
  | unended nonempty noFeed =>
      refine ⟨_, unended ?_ (joins noFeed)⟩
      simp
  | returned noFeed goesOn =>
      simp only [← String.append_assoc]
      exact ⟨_, returned (joins noFeed) goesOn⟩
  | @fed line rest later noFeed noReturn goesOn =>
      -- A return before an empty line is not on that line, but is cut off with its line feed.
      by_cases isEnd : line = "" ∧ character = '\r'
      · obtain ⟨rfl, rfl⟩ := isEnd
        exact ⟨_, returned noFeed goesOn⟩
      · simp only [← String.append_assoc]
        refine ⟨_, fed (joins noFeed) ?_ goesOn⟩
        rw [String.toList_append, List.getLast?_append]
        cases written : line.toList.getLast? with
        | some last => simpa [written] using noReturn
        | none =>
            have isEmpty : line = "" := by simpa using written
            simpa [isEmpty] using isEnd

theorem exists_lines (text : String) : ∃ lines, HasLines text lines := by
  rw [← String.ofList_toList (s := text)]
  induction text.toList with
  | nil => exact ⟨[], nothing⟩
  | cons character rest ih =>
      obtain ⟨lines, reading⟩ := ih
      rw [String.ofList_cons]
      by_cases isFeed : character = '\n'
      · subst character
        exact ⟨_, reading.feed⟩
      · exact exists_singleton_append isFeed reading

end HasLines

namespace Text

theorem lines_feed (text : String) :
    lines (text ++ "\n").toList = splitAtEach '\n' text.toList := by
  rw [String.toList_append]
  exact (lines_append_feed text.toList []).trans (List.append_nil _)

theorem toList_append_feed (first second : String) :
    (first ++ "\n" ++ second).toList = first.toList ++ '\n' :: second.toList := by
  simp

theorem strip_append_return (line : List Char) :
    strip (line ++ ['\r']) = strip line := by
  have returnIsBlank : strip ['\r'] = [] := by decide
  rw [strip_append, returnIsBlank, List.append_nil]

theorem strip_withoutReturn (line : List Char) : strip (withoutReturn line) = strip line := by
  unfold withoutReturn
  split
  · rename_i isReturn
    obtain ⟨before, rfl⟩ := List.getLast?_eq_some_iff.mp isReturn
    rw [List.dropLast_concat, strip_append_return]
  · rfl

/-- A blank at the end belongs to the last piece and is no part of what is left of it. -/
theorem map_strip_splitAtEach_append_return (characters : List Char) :
    (splitAtEach '\n' (characters ++ ['\r'])).map strip =
      (splitAtEach '\n' characters).map strip := by
  induction characters with
  | nil => decide
  | cons character rest ih =>
      rw [List.cons_append, splitAtEach, splitAtEach]
      split
      · rw [List.map_cons, ih, List.map_cons]
      · cases longer : splitAtEach '\n' (rest ++ ['\r']) with
        | nil => exact absurd longer (splitAtEach_ne_nil '\n' _)
        | cons piece later =>
            cases shorter : splitAtEach '\n' rest with
            | nil => exact absurd shorter (splitAtEach_ne_nil '\n' rest)
            | cons other others =>
                rw [longer, shorter, List.map_cons, List.map_cons, List.cons.injEq] at ih
                simp [strip_cons, ih]

end Text

namespace Output

/-- Every item on a line of its own, with a comma behind it if more items follow. -/
def itemLines : List String → String
  | [] => ""
  | [last] => last ++ "\n"
  | item :: later => item ++ ",\n" ++ itemLines later

theorem listText_eq_itemLines (items : List String) : listText items = itemLines items := by
  induction items with
  | nil => rfl
  | cons item later ih =>
      cases later with
      | nil => simp [listText, itemLines]
      | cons second rest =>
          calc listText (item :: second :: rest)
              = item ++ ",\n" ++ listText (second :: rest) := by
                simp [listText, String.intercalate_cons_cons, String.append_assoc]
            _ = item ++ ",\n" ++ itemLines (second :: rest) := by rw [ih]

end Output

namespace Program

open Output (itemLines)

theorem respond_eq_itemLines (rate : Rate) (line : String) :
    respond rate line =
      (itemLines (calculate line rate).answers, itemLines (calculate line rate).complaints) := by
  rw [respond, Output.listText_eq_itemLines, Output.listText_eq_itemLines]

theorem respond_strip (rate : Rate) (line : List Char) :
    respond rate (String.ofList (Text.strip line)) = respond rate (String.ofList line) := by
  have sameSlots : slotsOf (String.ofList (Text.strip line)) = slotsOf (String.ofList line) :=
    slotsOf_eq_of_strip_eq (by simp)
  rw [respond, calculate_eq_of_slotsOf_eq sameSlots, respond]

/-- The responses to lines of which only what is left without blanks is known. -/
def transcriptOfStripped (rate : Rate) (lines : List (List Char)) : String × String :=
  let responses := lines.map fun line => respond rate (String.ofList line)
  (String.join (responses.map Prod.fst), String.join (responses.map Prod.snd))

theorem transcript_eq_ofStripped (rate : Rate) (input : String) :
    transcript rate input =
      transcriptOfStripped rate ((Text.lines input.toList).map Text.strip) := by
  have sameResponse (line : List Char) :
      respond rate (String.ofList (Text.withoutReturn line)) =
        respond rate (String.ofList (Text.strip line)) := by
    rw [← respond_strip, Text.strip_withoutReturn]
  simp only [transcript, transcriptOfStripped, sameResponse, List.map_map, Function.comp_def]

theorem transcriptOfStripped_append (rate : Rate) (earlier later : List (List Char)) :
    transcriptOfStripped rate (earlier ++ later) =
      ((transcriptOfStripped rate earlier).1 ++ (transcriptOfStripped rate later).1,
        (transcriptOfStripped rate earlier).2 ++ (transcriptOfStripped rate later).2) := by
  simp only [transcriptOfStripped, List.map_append, String.join_append]

theorem transcript_append_feed (rate : Rate) (first second : String) :
    transcript rate (first ++ "\n" ++ second) =
      ((transcript rate (first ++ "\n")).1 ++ (transcript rate second).1,
        (transcript rate (first ++ "\n")).2 ++ (transcript rate second).2) := by
  simp only [transcript_eq_ofStripped, Text.toList_append_feed,
    Text.lines_append_feed, Text.lines_feed, List.map_append, transcriptOfStripped_append]

theorem transcript_return_feed (rate : Rate) (first second : String) :
    transcript rate (first ++ "\r\n" ++ second) = transcript rate (first ++ "\n" ++ second) := by
  have atReturn : (first ++ "\r\n" ++ second).toList =
      (first.toList ++ ['\r']) ++ '\n' :: second.toList := by simp
  rw [transcript_eq_ofStripped, transcript_eq_ofStripped, Text.toList_append_feed, atReturn,
    Text.lines_append_feed, Text.lines_append_feed, List.map_append,
    Text.map_strip_splitAtEach_append_return, List.map_append]

theorem transcript_of_single_line (rate : Rate) {input line : String}
    (single : Text.lines input.toList = [line.toList]) :
    transcript rate input = respond rate line := by
  simp [transcript_eq_ofStripped, single, transcriptOfStripped, respond_strip]

theorem transcript_unended (rate : Rate) {line : String} (nonempty : line ≠ "")
    (noFeed : '\n' ∉ line.toList) : transcript rate line = respond rate line := by
  have someCharacter : line.toList ≠ [] := by simpa using nonempty
  exact transcript_of_single_line rate (Text.lines_of_not_mem someCharacter noFeed)

/-- The first line is responded to, and nothing of it is left for the lines after it. -/
theorem transcript_line (rate : Rate) {line : String} (noFeed : '\n' ∉ line.toList)
    (rest : String) :
    transcript rate (line ++ "\n" ++ rest) =
      ((respond rate line).1 ++ (transcript rate rest).1,
        (respond rate line).2 ++ (transcript rate rest).2) := by
  have single : Text.lines (line ++ "\n").toList = [line.toList] := by
    rw [Text.lines_feed, Text.splitAtEach_of_not_mem noFeed]
  rw [transcript_append_feed, transcript_of_single_line rate single]

theorem transcript_of_hasLines (rate : Rate) {input : String} {lines : List String}
    (reading : HasLines input lines) :
    transcript rate input =
      (String.join (lines.map fun line => itemLines (calculate line rate).answers),
        String.join (lines.map fun line => itemLines (calculate line rate).complaints)) := by
  induction reading with
  | nothing => rfl
  | unended nonempty noFeed =>
      rw [transcript_unended rate nonempty noFeed, respond_eq_itemLines]
      simp
  | fed noFeed _ _ ih =>
      rw [transcript_line rate noFeed, ih, List.map_cons, List.map_cons, String.join_cons,
        String.join_cons, respond_eq_itemLines]
  | returned noFeed _ ih =>
      rw [transcript_return_feed, transcript_line rate noFeed, ih, List.map_cons, List.map_cons,
        String.join_cons, String.join_cons, respond_eq_itemLines]

/-- A session at a rate that is given, on some input. -/
def session (around : Surroundings) (rate : Rate) (input : String) : Outcome :=
  run { around with input := input } ["repl", "--qps", rate.text]

/-- A session at a given rate always comes to its end, and the settings have no part in it. -/
theorem session_eq_done (around : Surroundings) (rate : Rate) (input : String) :
    session around rate input =
      .done 0 (transcript rate input).1 (transcript rate input).2 := by
  rw [session, run, CommandLine.Request.ofArguments_interact]
  rfl

/--
A session ends well whatever its input is. It prints the answers and the
complaints of each line, in the order of the lines, as if each line were the only
one; the way a line ends makes no difference, and the session can be cut after
any line feed.
-/
theorem session_line_by_line (around : Surroundings) (rate : Rate) :
    (∀ input : String, ∃ lines : List String, HasLines input lines) ∧
      (∀ (input : String) (lines : List String), HasLines input lines →
        session around rate input =
          .done 0
            (String.join (lines.map fun line => itemLines (calculate line rate).answers))
            (String.join (lines.map fun line => itemLines (calculate line rate).complaints))) ∧
      (∀ first second : String,
        session around rate (first ++ "\r\n" ++ second) =
          session around rate (first ++ "\n" ++ second)) ∧
      ∀ first second : String, ∃ output errors laterOutput laterErrors : String,
        session around rate (first ++ "\n") = .done 0 output errors ∧
          session around rate second = .done 0 laterOutput laterErrors ∧
          session around rate (first ++ "\n" ++ second) =
            .done 0 (output ++ laterOutput) (errors ++ laterErrors) := by
  refine ⟨HasLines.exists_lines, ?_, ?_, ?_⟩
  · intro input lines reading
    rw [session_eq_done, transcript_of_hasLines rate reading]
  · intro first second
    rw [session_eq_done, session_eq_done, transcript_return_feed]
  · intro first second
    refine ⟨_, _, _, _, session_eq_done around rate (first ++ "\n"),
      session_eq_done around rate second, ?_⟩
    rw [session_eq_done, transcript_append_feed]

/-- Lines with both ends, with a fault and with nothing, where the settings are broken. -/
theorem session_goes_on_after_fault :
    let around : Surroundings :=
      { folder := ⟨none, []⟩
        environment := [("ADDTIME_CALCULATOR__QUANTUM_PER_SECOND", "fast")]
        input := "" }
    HasLines "1h +\r\n\n2m,x\n3" ["1h +", "", "2m,x", "3"] ∧
      session around .thirtyFrames "1h +\r\n\n2m,x\n3" =
        .done 0 "01h00m00s\n02m00s,\nERROR!\n000\n" "\"x\" is not a valid time value\n" := by
  intro around
  have last : HasLines "3" ["3"] := .unended (by decide) (by decide)
  have faulty : HasLines ("2m,x" ++ "\n" ++ "3") ["2m,x", "3"] := .fed (by decide) (by decide) last
  have empty : HasLines ("" ++ "\n" ++ "2m,x\n3") ["", "2m,x", "3"] :=
    .fed (by decide) (by decide) faulty
  have reading : HasLines ("1h +" ++ "\r\n" ++ "\n2m,x\n3") ["1h +", "", "2m,x", "3"] :=
    .returned (by decide) empty
  refine ⟨reading, ?_⟩
  have printed := (session_line_by_line around .thirtyFrames).2.1 _ _ reading
  exact printed.trans (by decide +kernel)

end Program

end DurationCalc
