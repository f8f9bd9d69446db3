import DurationCalc.CommandLine.Request

/-!
# A rate given on the command line

The commands that choose a rate take it as an option with a value. The text of a
rate is no option itself, so it is taken for the value and read as that rate, and
the settings have no part in the request.
-/

namespace DurationCalc.CommandLine

/-- What does not start with a hyphen is no option. -/
theorem Shape.ofArgument_eq_word {argument : String}
    (noHyphen : argument.toList.head? ≠ some '-') : ofArgument argument = .word := by
  rw [ofArgument]
  split
  · rename_i isHyphens
    simp [isHyphens] at noHyphen
  · rename_i isLong
    simp [isLong] at noHyphen
  · rename_i isLetters
    simp [isLetters] at noHyphen
  · rfl

theorem Shape.ofArgument_rate_text (rate : Rate) : Shape.ofArgument rate.text = .word := by
  obtain ⟨first, rest, written, isDigit⟩ := Text.exists_digits_eq_cons rate.perSecond
  apply ofArgument_eq_word
  rw [Rate.text, String.toList_ofList, written, List.head?_cons]
  rintro ⟨⟩
  cases isDigit

theorem Field.admits_rate_text (rate : Rate) : Field.rate.admits rate.text = true := by
  rw [admits, Rate.ofText_text]
  rfl

namespace Scan

/-- Options may still come: none waits for its value, and nothing has ended them. -/
structure IsOpen (scan : Scan) : Prop where
  pending : scan.pending = none
  wordsOnly : scan.wordsOnly = false

theorem isOpen_empty : ({} : Scan).IsOpen := ⟨rfl, rfl⟩

theorem step_rateOption {command : Command}
    (choosesRate : Level.choosesRate (some command) = true) {scan : Scan} (isOpen : scan.IsOpen) :
    scan.step (some command) "--qps" = .go { scan with pending := some .rate } := by
  have shape : Shape.ofArgument "--qps" = .long "qps" none := by decide +kernel
  cases command with
  | evaluate | interact =>
      simp [step, takeShaped, takeField, shape, isOpen.pending, isOpen.wordsOnly,
        Level.switchNamed?, Level.fieldNamed?, Level.choosesRate]
  | _ => cases choosesRate

theorem step_rateValue (rate : Rate) (level : Level) {scan : Scan} (isOpen : scan.IsOpen)
    (isNew : scan.valueOf? .rate = none) :
    ({ scan with pending := some .rate } : Scan).step level rate.text =
      .go { scan with fields := (.rate, rate.text) :: scan.fields } := by
  have nothingYet : List.lookup .rate scan.fields = none := isNew
  simp [step, takeShaped, Shape.ofArgument_rate_text, takePlain, takeValue, valueOf?,
    Field.admits_rate_text, isOpen.pending, isOpen.wordsOnly, nothingYet]

end Scan

/-- The option and its value are taken, and the scan goes on with what follows. -/
theorem Arguments.ofCommand_rate {command : Command}
    (choosesRate : Level.choosesRate (some command) = true) (program : Scan) (rate : Rate)
    {own : Scan} (isOpen : own.IsOpen) (isNew : own.valueOf? .rate = none) (later : List String) :
    ofCommand program command own ("--qps" :: rate.text :: later) =
      ofCommand program command { own with fields := (.rate, rate.text) :: own.fields } later := by
  rw [ofCommand, Scan.step_rateOption choosesRate isOpen]
  dsimp only
  rw [ofCommand, Scan.step_rateValue rate _ isOpen isNew]

theorem rateChoice_of_valueOf? {program own : Scan} {rate : Rate}
    (chosen : own.valueOf? .rate = some rate.text) : rateChoice program own = .given rate := by
  simp [rateChoice, chosen, Rate.ofText_text, Except.toOption]

/-- Asking for a session at a rate. -/
theorem Request.ofArguments_interact (rate : Rate) :
    ofArguments ["repl", "--qps", rate.text] = some (.interact (.given rate)) := by
  have scanned : Arguments.ofList ["repl", "--qps", rate.text] =
      .named {} .interact { fields := [(.rate, rate.text)] } := by
    have enters : Arguments.ofList ["repl", "--qps", rate.text] =
        Arguments.ofCommand {} .interact {} ["--qps", rate.text] := rfl
    rw [enters, Arguments.ofCommand_rate rfl {} rate Scan.isOpen_empty rfl]
    rfl
  have chosen : rateChoice {} { fields := [(.rate, rate.text)] } = .given rate :=
    rateChoice_of_valueOf? rfl
  rw [ofArguments, scanned]
  change some (interact (rateChoice {} { fields := [(.rate, rate.text)] })) = _
  rw [chosen]

end DurationCalc.CommandLine
