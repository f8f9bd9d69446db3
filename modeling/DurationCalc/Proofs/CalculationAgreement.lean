import DurationCalc.Proofs.BlanksAndCase
import DurationCalc.Proofs.LineByLine
import DurationCalc.Proofs.TrailingWords

/-!
# One calculation on all ways through the program

A calculation can be asked for with the words of a command or with a line of a
session. Both ways print the report of the words put together: the spaces that
join them are blanks, and no word after the first is an option. The layout changes
what the output shows, but neither the exit code nor what is complained about.
-/

namespace DurationCalc

namespace Text

theorem mem_intercalate {character : Char} {gap : String} {words : List String}
    (isThere : character ∈ (gap.intercalate words).toList) :
    character ∈ gap.toList ∨ ∃ word ∈ words, character ∈ word.toList := by
  induction words with
  | nil => simp at isThere
  | cons word later ih =>
      cases later with
      | nil => exact .inr ⟨word, List.mem_cons_self, by simpa using isThere⟩
      | cons second rest =>
          rw [String.intercalate_cons_cons, String.toList_append, String.toList_append,
            List.mem_append, List.mem_append] at isThere
          rcases isThere with (inWord | inGap) | inRest
          · exact .inr ⟨word, List.mem_cons_self, inWord⟩
          · exact .inl inGap
          · rcases ih inRest with inGap | ⟨other, isLater, inOther⟩
            · exact .inl inGap
            · exact .inr ⟨other, List.mem_cons_of_mem _ isLater, inOther⟩

end Text

/-- The space between words is a blank, so it makes no difference. -/
theorem slotsOf_intercalate_space (words : List String) :
    slotsOf (" ".intercalate words) = slotsOf (String.join words) :=
  slotsOf_eq_of_strip_eq (spacedOut_intercalate rfl words).strip_eq

namespace Program

open CommandLine (Layout Request Scan)

variable (rate : Rate) (words : List String)

theorem respond_intercalate_space :
    respond rate (" ".intercalate words) = respond rate (String.join words) := by
  rw [respond, calculate_eq_of_slotsOf_eq (slotsOf_intercalate_space words), respond]

theorem ofValues_evaluate_intercalate_space :
    Report.ofValues (evaluate (" ".intercalate words) rate) =
      calculate (String.join words) rate := by
  rw [← calculate_eq_ofValues, calculate_eq_of_slotsOf_eq (slotsOf_intercalate_space words)]

/-- The exit code of a calculation: one if there is something to complain about. -/
def exitCode (report : Report) : Nat :=
  if report.complaints = [] then 0 else 1

theorem exitCode_eq (report : Report) :
    (if report.hasComplaints then 1 else 0) = exitCode report := by
  cases written : report.complaints <;> simp [exitCode, Report.hasComplaints, written]

theorem showResults_lists :
    showResults .lists (evaluate (" ".intercalate words) rate) =
      .done (exitCode (calculate (String.join words) rate))
        (respond rate (String.join words)).1 (respond rate (String.join words)).2 := by
  simp only [showResults, ofValues_evaluate_intercalate_space, exitCode_eq, respond]

/-- In the other layouts the complaints stand in the output. -/
theorem showResults_of_ne_lists {layout : Layout} (notLists : layout ≠ .lists) :
    ∃ output, showResults layout (evaluate (" ".intercalate words) rate) =
      .done (exitCode (calculate (String.join words) rate)) output "" := by
  cases layout with
  | lists => exact absurd rfl notLists
  | json | table =>
      simp only [showResults, ofValues_evaluate_intercalate_space, exitCode_eq]
      exact ⟨_, rfl⟩

theorem run_eq_perform (around : Surroundings) {arguments : List String} {request : Request}
    (asked : Request.ofArguments arguments = some request) :
    run around arguments = perform around request := by
  rw [run, asked]

/-- A line that a line feed may end, alone or after a carriage return, is all of the session. -/
theorem transcript_of_ended_line {line ending : String} (noFeed : '\n' ∉ line.toList)
    (ends : ending ∈ ["", "\n", "\r\n"]) :
    transcript rate (line ++ ending) = respond rate line := by
  have nothingElse : transcript rate "" = ("", "") := rfl
  have fed : transcript rate (line ++ "\n") = respond rate line := by
    have fromLine := transcript_line rate noFeed ""
    rwa [String.append_empty, nothingElse, String.append_empty, String.append_empty] at fromLine
  simp only [List.mem_cons, List.not_mem_nil, or_false] at ends
  rcases ends with rfl | rfl | rfl
  · rw [String.append_empty]
    by_cases isEmpty : line = ""
    · subst line
      rfl
    · exact transcript_unended rate isEmpty noFeed
  · exact fed
  · have returned := transcript_return_feed rate line ""
    rwa [String.append_empty, String.append_empty, fed] at returned

theorem run_evaluate (around : Surroundings) {first : String}
    (noHyphen : first.toList.head? ≠ some '-') (later : List String) :
    run around ("calc" :: "--qps" :: rate.text :: first :: later) =
      .done (exitCode (calculate (String.join (first :: later)) rate))
        (respond rate (String.join (first :: later))).1
        (respond rate (String.join (first :: later))).2 := by
  rw [run_eq_perform around (Request.ofArguments_evaluate rate noHyphen later)]
  exact showResults_lists rate (first :: later)

theorem run_interact_intercalate (around : Surroundings)
    (noFeed : ∀ word ∈ words, '\n' ∉ word.toList) {ending : String}
    (ends : ending ∈ ["", "\n", "\r\n"]) :
    run { around with input := " ".intercalate words ++ ending } ["repl", "--qps", rate.text] =
      .done 0 (respond rate (String.join words)).1 (respond rate (String.join words)).2 := by
  have noFeedInLine : '\n' ∉ (" ".intercalate words).toList := by
    intro isThere
    rcases Text.mem_intercalate isThere with inGap | ⟨word, isWord, inWord⟩
    · exact absurd inGap (by decide)
    · exact noFeed word isWord inWord
  have asSession := session_eq_done around rate (" ".intercalate words ++ ending)
  rw [session, transcript_of_ended_line rate noFeedInLine ends,
    respond_intercalate_space] at asSession
  exact asSession

theorem run_evaluate_layout (around : Surroundings) {first : String}
    (noHyphen : first.toList.head? ≠ some '-') (later : List String) {layout : String}
    (asks : layout ∈ Scan.layoutArguments) {options : List String}
    (eitherOrder : options = [layout, "--qps", rate.text] ∨
      options = ["--qps", rate.text, layout]) :
    ∃ output, run around ("calc" :: (options ++ first :: later)) =
      .done (exitCode (calculate (String.join (first :: later)) rate)) output "" := by
  obtain ⟨chosen, notLists, asked⟩ :=
    Request.ofArguments_evaluate_layout rate noHyphen later asks eitherOrder
  rw [run_eq_perform around asked]
  exact showResults_of_ne_lists rate (first :: later) notLists

/--
A calculation with the words of a command prints the report of the words put
together and fails when it complains. A session with the words on one line prints
the same and ends well, and the other layouts have the same exit code with no
complaint beside them. So the words count by their characters only.
-/
theorem calculation_same_on_all_ways (around : Surroundings) (rate : Rate) (first : String)
    (later : List String) (noHyphen : first.toList.head? ≠ some '-')
    (noFeed : ∀ word ∈ first :: later, '\n' ∉ word.toList) :
    let words := first :: later
    let report := calculate (String.join words) rate
    let shown := fun items : List String =>
      if items = [] then "" else ",\n".intercalate items ++ "\n"
    let code := if report.complaints = [] then 0 else 1
    run around ("calc" :: "--qps" :: rate.text :: words) =
        .done code (shown report.answers) (shown report.complaints) ∧
      (∀ (otherFirst : String) (otherLater : List String),
        otherFirst.toList.head? ≠ some '-' →
        String.join (otherFirst :: otherLater) = String.join words →
          run around ("calc" :: "--qps" :: rate.text :: otherFirst :: otherLater) =
            run around ("calc" :: "--qps" :: rate.text :: words)) ∧
      (∀ ending ∈ ["", "\n", "\r\n"],
        run { around with input := " ".intercalate words ++ ending } ["repl", "--qps", rate.text] =
          .done 0 (shown report.answers) (shown report.complaints)) ∧
      ∀ layout ∈ ["--json", "--table", "-t"],
        ∀ options ∈ [[layout, "--qps", rate.text], ["--qps", rate.text, layout]],
          ∃ output, run around ("calc" :: (options ++ words)) = .done code output "" := by
  intro words report shown code
  have respond_eq : respond rate (String.join words) =
      (shown report.answers, shown report.complaints) := by
    simp only [respond, Output.listText, List.isEmpty_iff, shown, report]
  refine ⟨?_, ?_, ?_, ?_⟩
  · rw [run_evaluate rate around noHyphen later, respond_eq]
    rfl
  · intro otherFirst otherLater otherNoHyphen sameCharacters
    rw [run_evaluate rate around otherNoHyphen otherLater, sameCharacters,
      run_evaluate rate around noHyphen later]
  · intro ending ends
    rw [run_interact_intercalate rate words around noFeed ends, respond_eq]
  · intro layout asks options eitherOrder
    have orders : options = [layout, "--qps", rate.text] ∨
        options = ["--qps", rate.text, layout] := by
      simpa using eitherOrder
    exact run_evaluate_layout rate around noHyphen later asks orders

/-- Words that look like options, where the settings are broken. -/
theorem calculation_same_with_later_options :
    let around : Surroundings :=
      { folder := ⟨none, []⟩
        environment := [("ADDTIME_CALCULATOR__QUANTUM_PER_SECOND", "fast")]
        input := "" }
    run around ["calc", "--qps", "30", "1h", "-", "30m,", "--json"] =
        .done 1 "30m00s,\nERROR!\n" "Unexpected \"-\", did you forget to put a time before?\n" ∧
      run { around with input := "1h - 30m, --json" } ["repl", "--qps", "30"] =
        .done 0 "30m00s,\nERROR!\n" "Unexpected \"-\", did you forget to put a time before?\n" := by
  intro around
  have same := calculation_same_on_all_ways around .thirtyFrames "1h" ["-", "30m,", "--json"]
    (by decide) (by decide)
  exact ⟨same.1.trans (by decide +kernel),
    (same.2.2.1 "" List.mem_cons_self).trans (by decide +kernel)⟩

end Program

end DurationCalc
