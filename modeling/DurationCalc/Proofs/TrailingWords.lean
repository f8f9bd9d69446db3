import DurationCalc.Proofs.RateOption

/-!
# Words after the options

The first word of a calculation ends its options: every argument from there on is
a word, whatever it looks like. What the options ahead of it have settled stays
as it is, so that the rate and the layout are known before the words are looked
at.
-/

namespace DurationCalc.CommandLine

namespace Scan

variable {command : Command}

theorem takeWord_of_takesAllWords (takesAll : Level.takesAllWords (some command) = true)
    (scan : Scan) (word : String) :
    scan.takeWord (some command) word =
      .go { scan with words := scan.words ++ [word], wordsOnly := true } := by
  simp [takeWord, Level.hasRoom, takesAll]

theorem step_word (takesAll : Level.takesAllWords (some command) = true) {scan : Scan}
    (ended : scan.wordsOnly = true) (word : String) :
    scan.step (some command) word =
      .go { scan with words := scan.words ++ [word], wordsOnly := true } := by
  rw [step, if_pos ended, takeWord_of_takesAllWords takesAll]

/-- A word without a hyphen in front ends the options. -/
theorem step_firstWord (takesAll : Level.takesAllWords (some command) = true) {scan : Scan}
    (isOpen : scan.IsOpen) {word : String} (noHyphen : word.toList.head? ≠ some '-') :
    scan.step (some command) word =
      .go { scan with words := scan.words ++ [word], wordsOnly := true } := by
  have isWord := Shape.ofArgument_eq_word noHyphen
  simp [step, isOpen.wordsOnly, takeShaped, isWord, takePlain, isOpen.pending,
    takeWord_of_takesAllWords takesAll]

/-- The arguments that ask for a layout other than lists. -/
def layoutArguments : List String := ["--json", "--table", "-t"]

theorem step_layoutArgument {argument : String} (asks : argument ∈ layoutArguments)
    {scan : Scan} (isOpen : scan.IsOpen) (isNew : scan.switches = []) :
    ∃ switch, (switch = .json ∨ switch = .table) ∧
      scan.step (some .evaluate) argument = .go { scan with switches := [switch] } := by
  have json : Shape.ofArgument "--json" = .long "json" none := by decide +kernel
  have table : Shape.ofArgument "--table" = .long "table" none := by decide +kernel
  have letter : Shape.ofArgument "-t" = .letters ['t'] := by decide +kernel
  simp only [layoutArguments, List.mem_cons, List.not_mem_nil, or_false] at asks
  rcases asks with rfl | rfl | rfl
  · refine ⟨.json, .inl rfl, ?_⟩
    simp [step, takeShaped, json, takeSwitch, isOpen.pending, isOpen.wordsOnly, isNew,
      Level.switchNamed?]
  · refine ⟨.table, .inr rfl, ?_⟩
    simp [step, takeShaped, table, takeSwitch, isOpen.pending, isOpen.wordsOnly, isNew,
      Level.switchNamed?]
  · refine ⟨.table, .inr rfl, ?_⟩
    simp [step, takeShaped, letter, takeLetters, takeSwitch, isOpen.pending, isOpen.wordsOnly,
      isNew, Level.switchLettered?]

end Scan

namespace Arguments

variable {command : Command}

theorem ofCommand_words (takesAll : Level.takesAllWords (some command) = true) (program : Scan)
    {own : Scan} (ended : own.wordsOnly = true) (later : List String) :
    ofCommand program command own later =
      ofCommand program command { own with words := own.words ++ later, wordsOnly := true } [] := by
  induction later generalizing own with
  | nil =>
      rw [List.append_nil, ← ended]
  | cons word rest ih =>
      have taken : ofCommand program command own (word :: rest) = ofCommand program command
          { own with words := own.words ++ [word], wordsOnly := true } rest := by
        rw [ofCommand, Scan.step_word takesAll ended]
      rw [taken, ih rfl, List.append_assoc, List.singleton_append]

/-- The options hold no contradiction, so that the words complete the command. -/
theorem ofCommand_firstWord (takesAll : Level.takesAllWords (some command) = true)
    (program : Scan) {own : Scan} (isOpen : own.IsOpen) (noWords : own.words = [])
    (noConflict : own.hasConflict = false) {first : String}
    (noHyphen : first.toList.head? ≠ some '-') (later : List String) :
    ofCommand program command own (first :: later) =
      .named program command { own with words := first :: later, wordsOnly := true } := by
  rw [ofCommand, Scan.step_firstWord takesAll isOpen noHyphen]
  dsimp only
  rw [ofCommand_words takesAll program rfl, noWords]
  have complete : ({ own with words := first :: later, wordsOnly := true } : Scan).isComplete
      (some command) = true := by
    have parts : (own.pending.isNone && !own.hasConflict &&
        Level.isSatisfied (some command) (first :: later).length) = true := by
      simp [isOpen.pending, noConflict, Level.isSatisfied, takesAll]
    exact parts
  exact if_pos complete

theorem ofCommand_layout_rate {argument : String} (asks : argument ∈ Scan.layoutArguments)
    (program : Scan) (rate : Rate) {options : List String}
    (eitherOrder : options = [argument, "--qps", rate.text] ∨
      options = ["--qps", rate.text, argument]) (later : List String) :
    ∃ switch, (switch = .json ∨ switch = .table) ∧
      ofCommand program .evaluate {} (options ++ later) =
        ofCommand program .evaluate
          { switches := [switch], fields := [(.rate, rate.text)] } later := by
  have choosesRate : Level.choosesRate (some .evaluate) = true := rfl
  rcases eitherOrder with rfl | rfl
  · obtain ⟨switch, isLayout, taken⟩ := Scan.step_layoutArgument asks Scan.isOpen_empty rfl
    refine ⟨switch, isLayout, ?_⟩
    have isOpen : ({ switches := [switch] } : Scan).IsOpen := ⟨rfl, rfl⟩
    rw [List.cons_append, ofCommand, taken]
    exact ofCommand_rate choosesRate program rate isOpen rfl later
  · have isOpen : ({ fields := [(.rate, rate.text)] } : Scan).IsOpen := ⟨rfl, rfl⟩
    obtain ⟨switch, isLayout, taken⟩ := Scan.step_layoutArgument asks isOpen rfl
    refine ⟨switch, isLayout, ?_⟩
    have rateFirst :=
      ofCommand_rate choosesRate program rate Scan.isOpen_empty rfl (argument :: later)
    rw [List.cons_append, List.cons_append, List.cons_append, List.nil_append, rateFirst,
      ofCommand, taken]

end Arguments

namespace Request

theorem ofArguments_of_named {arguments : List String} {program own : Scan} {command : Command}
    (scanned : Arguments.ofList arguments = .named program command own) :
    ofArguments arguments = commandRequest program command own := by
  rw [ofArguments, scanned]

variable (rate : Rate) {first : String} (noHyphen : first.toList.head? ≠ some '-')
  (later : List String)
include noHyphen

theorem ofArguments_evaluate :
    ofArguments ("calc" :: "--qps" :: rate.text :: first :: later) =
      some (.evaluate (.given rate) .lists (first :: later)) := by
  have isOpen : ({ fields := [(.rate, rate.text)] } : Scan).IsOpen := ⟨rfl, rfl⟩
  have scanned : Arguments.ofList ("calc" :: "--qps" :: rate.text :: first :: later) =
      .named {} .evaluate
        { fields := [(.rate, rate.text)], words := first :: later, wordsOnly := true } := by
    have enters : Arguments.ofList ("calc" :: "--qps" :: rate.text :: first :: later) =
        Arguments.ofCommand {} .evaluate {} ("--qps" :: rate.text :: first :: later) := rfl
    rw [enters, Arguments.ofCommand_rate rfl {} rate Scan.isOpen_empty rfl]
    exact Arguments.ofCommand_firstWord rfl {} isOpen rfl rfl noHyphen later
  rw [ofArguments_of_named scanned, commandRequest, rateChoice_of_valueOf? rfl]
  rfl

theorem ofArguments_evaluate_layout {argument : String} (asks : argument ∈ Scan.layoutArguments)
    {options : List String} (eitherOrder : options = [argument, "--qps", rate.text] ∨
      options = ["--qps", rate.text, argument]) :
    ∃ layout, layout ≠ .lists ∧
      ofArguments ("calc" :: (options ++ first :: later)) =
        some (.evaluate (.given rate) layout (first :: later)) := by
  obtain ⟨switch, isLayout, taken⟩ :=
    Arguments.ofCommand_layout_rate asks {} rate eitherOrder (first :: later)
  have isOpen : ({ switches := [switch], fields := [(.rate, rate.text)] } : Scan).IsOpen :=
    ⟨rfl, rfl⟩
  have noConflict :
      ({ switches := [switch], fields := [(.rate, rate.text)] } : Scan).hasConflict = false := by
    rcases isLayout with rfl | rfl <;> rfl
  have scanned : Arguments.ofList ("calc" :: (options ++ first :: later)) =
      .named {} .evaluate
        { switches := [switch], fields := [(.rate, rate.text)]
          words := first :: later, wordsOnly := true } := by
    have enters : Arguments.ofList ("calc" :: (options ++ first :: later)) =
        Arguments.ofCommand {} .evaluate {} (options ++ first :: later) := rfl
    rw [enters, taken]
    exact Arguments.ofCommand_firstWord rfl {} isOpen rfl noConflict noHyphen later
  rw [ofArguments_of_named scanned, commandRequest, rateChoice_of_valueOf? rfl]
  rcases isLayout with rfl | rfl
  · exact ⟨.json, by decide, rfl⟩
  · exact ⟨.table, by decide, rfl⟩

end Request

end DurationCalc.CommandLine
