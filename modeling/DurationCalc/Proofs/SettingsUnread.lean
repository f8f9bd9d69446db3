import DurationCalc.CommandLine.Request
import DurationCalc.Program

/-!
# Runs that leave the settings unread

The settings are looked at only where the command line leaves the rate open. A
value that the scan has taken for an option was checked when it was taken, so a
rate that is given is always a rate, and neither files nor environment variables
can change or spoil such a run.
-/

namespace DurationCalc

namespace CommandLine

/-- Every value that was taken for an option is one that the option admits. -/
def Scan.HoldsAdmitted (scan : Scan) : Prop :=
  ∀ taken ∈ scan.fields, taken.1.admits taken.2 = true

/-- If the step goes on, the values taken by then are admitted. -/
def Step.HoldsAdmitted : Step → Prop
  | .go next => next.HoldsAdmitted
  | _ => True

namespace Scan

variable {scan : Scan} (holds : scan.HoldsAdmitted)
include holds

theorem takeSwitch_holdsAdmitted (switch : Switch) : (scan.takeSwitch switch).HoldsAdmitted := by
  unfold takeSwitch
  split
  · trivial
  · cases switch with
    | help | version => trivial
    | debug | json | table =>
        dsimp only
        split
        · trivial
        · exact holds

theorem takeValue_holdsAdmitted (field : Field) (value : String) :
    (scan.takeValue field value).HoldsAdmitted := by
  unfold takeValue
  split
  · trivial
  · rename_i taken
    have admitted : field.admits value = true := by
      cases admits : field.admits value with
      | true => rfl
      | false => exact absurd (by simp [admits]) taken
    intro entry isThere
    rcases List.mem_cons.mp isThere with rfl | isOlder
    · exact admitted
    · exact holds entry isOlder

theorem takeField_holdsAdmitted (field : Field) (attached : Option String) :
    (scan.takeField field attached).HoldsAdmitted := by
  unfold takeField
  split
  · trivial
  · cases attached with
    | none => exact holds
    | some value => exact takeValue_holdsAdmitted holds field value

theorem takeWord_holdsAdmitted (level : Level) (word : String) :
    (scan.takeWord level word).HoldsAdmitted := by
  unfold takeWord
  split
  · exact holds
  · trivial

theorem takePlain_holdsAdmitted (level : Level) (argument : String) :
    (scan.takePlain level argument).HoldsAdmitted := by
  unfold takePlain
  split
  · exact takeValue_holdsAdmitted holds _ argument
  · exact takeWord_holdsAdmitted holds level argument

theorem takeHyphenated_holdsAdmitted (level : Level) (argument : String) :
    (scan.takeHyphenated level argument).HoldsAdmitted := by
  unfold takeHyphenated
  split
  · exact takePlain_holdsAdmitted holds level argument
  · trivial

theorem takeLetters_holdsAdmitted (level : Level) (letters : List Char) :
    (scan.takeLetters level letters).HoldsAdmitted := by
  induction letters generalizing scan with
  | nil => exact holds
  | cons letter later ih =>
      unfold takeLetters
      split
      · trivial
      · rename_i switch _
        have taken := takeSwitch_holdsAdmitted holds switch
        split
        · rename_i next isNext
          rw [isNext] at taken
          exact ih taken
        · exact taken

theorem takeShaped_holdsAdmitted (level : Level) (argument : String) :
    (scan.takeShaped level argument).HoldsAdmitted := by
  unfold takeShaped
  cases Shape.ofArgument argument with
  | endOfOptions =>
      dsimp only
      split
      · trivial
      · exact holds
  | long name attached =>
      dsimp only
      split
      · split
        · trivial
        · exact takeSwitch_holdsAdmitted holds _
      · split
        · exact takeField_holdsAdmitted holds _ attached
        · exact takeHyphenated_holdsAdmitted holds level argument
  | letters letters =>
      dsimp only
      split
      · exact takePlain_holdsAdmitted holds level argument
      · exact takeLetters_holdsAdmitted holds level letters
  | word => exact takePlain_holdsAdmitted holds level argument

/-- One argument adds no value that its option would not admit. -/
theorem step_holdsAdmitted (level : Level) (argument : String) :
    (scan.step level argument).HoldsAdmitted := by
  unfold step
  split
  · exact takeWord_holdsAdmitted holds level argument
  · split
    · split
      · trivial
      · split
        · trivial
        · exact takeShaped_holdsAdmitted holds level argument
    · exact takeShaped_holdsAdmitted holds level argument

end Scan

namespace Arguments

/-- No matter how many arguments there are, the values taken from them are admitted. -/
theorem ofCommand_holdsAdmitted {start : Scan} {entered : Command} {program own taken : Scan}
    {command : Command} {arguments : List String} (holds : own.HoldsAdmitted)
    (named : ofCommand start entered own arguments = .named program command taken) :
    taken.HoldsAdmitted := by
  induction arguments generalizing own with
  | nil =>
      unfold ofCommand at named
      split at named
      · cases named
        exact holds
      · cases named
  | cons argument later ih =>
      have next := Scan.step_holdsAdmitted holds (some entered) argument
      unfold ofCommand at named
      split at named
      · rename_i isNext
        rw [isNext] at next
        exact ih next named
      all_goals cases named

theorem ofProgram_holdsAdmitted {start program own : Scan} {command : Command}
    {arguments : List String}
    (named : ofProgram start arguments = .named program command own) : own.HoldsAdmitted := by
  have nothingTaken : ({} : Scan).HoldsAdmitted := by
    intro taken isThere
    cases isThere
  induction arguments generalizing start with
  | nil =>
      unfold ofProgram at named
      split at named
      all_goals cases named
  | cons argument later ih =>
      unfold ofProgram at named
      split at named
      · exact ih named
      · exact ofCommand_holdsAdmitted nothingTaken named
      · -- What follows the word for help only decides whether there is help to give.
        split at named
        · cases named
        · split at named
          all_goals cases named
        · cases named
      all_goals cases named

end Arguments

namespace Scan

/-- A rate was given as an option, in one of the two ways. -/
def GivesRate (own : Scan) : Prop :=
  (own.valueOf? .rate).isSome = true ∨ (own.valueOf? .frames).isSome = true

theorem HoldsAdmitted.admits {own : Scan} (holds : own.HoldsAdmitted) {field : Field}
    {value : String} (taken : own.valueOf? field = some value) : field.admits value = true := by
  obtain ⟨before, after, split, _⟩ := List.lookup_eq_some_iff.mp taken
  exact holds (field, value) (by simp [split])

end Scan

theorem exists_rateChoice_eq_given {own : Scan} (holds : own.HoldsAdmitted)
    (givesRate : own.GivesRate) (program : Scan) :
    ∃ rate, rateChoice program own = .given rate := by
  cases ofRate : own.valueOf? .rate with
  | some text =>
      have admitted := holds.admits ofRate
      cases read : Rate.ofText text with
      | ok rate => exact ⟨rate, by simp [rateChoice, ofRate, read, Except.toOption]⟩
      | error error => simp [Field.admits, read, Except.isOk, Except.toBool] at admitted
  | none =>
      cases ofFrames : own.valueOf? .frames with
      | some text =>
          have admitted := holds.admits ofFrames
          obtain ⟨rate, read⟩ := Option.isSome_iff_exists.mp admitted
          exact ⟨rate, by simp [rateChoice, ofRate, ofFrames, read]⟩
      | none => simp [Scan.GivesRate, ofRate, ofFrames] at givesRate

/-- The request can be met without a look at the settings. -/
def Request.NeedsNoSettings : Request → Prop
  | .evaluate (.fromSettings _) _ _ | .interact (.fromSettings _) | .settings _ => False
  | _ => True

/--
The arguments name a command that has no use for a rate, or give the rate as an
option. Arguments that name no command, or make no sense, need no settings either.
-/
def Arguments.NeedNoSettings : Arguments → Prop
  | .named _ .add _ | .named _ .subtract _ | .named _ .divide _ => True
  | .named _ .evaluate own | .named _ .interact own => own.GivesRate
  | .named _ .settings _ => False
  | .help | .version | .refused | .bare _ => True

theorem Request.needsNoSettings_of_arguments {arguments : List String} {request : Request}
    (noNeed : (Arguments.ofList arguments).NeedNoSettings)
    (asked : ofArguments arguments = some request) : request.NeedsNoSettings := by
  unfold ofArguments at asked
  cases scanned : Arguments.ofList arguments with
  | help | version | bare =>
      rw [scanned] at asked
      cases asked
      trivial
  | refused =>
      rw [scanned] at asked
      cases asked
  | named program command own =>
      have holds := Arguments.ofProgram_holdsAdmitted scanned
      rw [scanned] at asked noNeed
      dsimp only at asked
      unfold commandRequest at asked
      split at asked
      · obtain ⟨rate, given⟩ := exists_rateChoice_eq_given holds noNeed program
        rw [given] at asked
        cases asked
        trivial
      · cases asked
        trivial
      · cases asked
        trivial
      · cases asked
        trivial
      · obtain ⟨rate, given⟩ := exists_rateChoice_eq_given holds noNeed program
        rw [given] at asked
        cases asked
        trivial
      · exact absurd noNeed id
      · cases asked

end CommandLine

namespace Program

open CommandLine (Arguments Request RateChoice)

theorem perform_eq_of_needsNoSettings {request : Request} (noNeed : request.NeedsNoSettings)
    {first second : Surroundings} (sameInput : first.input = second.input) :
    perform first request = perform second request := by
  cases request with
  | evaluate choice layout words =>
      cases choice with
      | given rate => rfl
      | fromSettings path => exact absurd noNeed id
  | interact choice =>
      cases choice with
      | given rate => simp only [perform, rateOf, sameInput]
      | fromSettings path => exact absurd noNeed id
  | settings path => exact absurd noNeed id
  | help | version | nothing | add | subtract | divide => rfl

theorem exists_ofCells_eq_done (result : Except CellError String) :
    ∃ code output errors, ofCells result = .done code output errors := by
  cases result with
  | ok text => exact ⟨0, text ++ "\n", "", rfl⟩
  | error error => exact ⟨1, "", "error: " ++ error.message ++ "\n", rfl⟩

/-- Without a need for settings nothing keeps a run from its end. -/
theorem exists_perform_eq_done {request : Request} (noNeed : request.NeedsNoSettings)
    (around : Surroundings) :
    ∃ code output errors, perform around request = .done code output errors := by
  cases request with
  | help | version | nothing => exact ⟨_, _, _, rfl⟩
  | evaluate choice layout words =>
      cases choice with
      | given rate => cases layout <;> exact ⟨_, _, _, rfl⟩
      | fromSettings path => exact absurd noNeed id
  | add | subtract | divide => exact exists_ofCells_eq_done _
  | interact choice =>
      cases choice with
      | given rate => exact ⟨_, _, _, rfl⟩
      | fromSettings path => exact absurd noNeed id
  | settings path => exact absurd noNeed id

/--
A run whose arguments need no settings is the same in all surroundings with the
same input, whatever the files and the environment variables hold, and is never
given up because of them.
-/
theorem run_eq_of_needNoSettings {arguments : List String}
    (noNeed : (Arguments.ofList arguments).NeedNoSettings) {first second : Surroundings}
    (sameInput : first.input = second.input) :
    run first arguments = run second arguments ∧
      ∀ error, run first arguments ≠ .misconfigured error := by
  unfold run
  cases asked : Request.ofArguments arguments with
  | none => exact ⟨rfl, fun error => Outcome.noConfusion⟩
  | some request =>
      have requestNoNeed := Request.needsNoSettings_of_arguments noNeed asked
      refine ⟨perform_eq_of_needsNoSettings requestNoNeed sameInput, ?_⟩
      obtain ⟨code, output, errors, isDone⟩ := exists_perform_eq_done requestNoNeed first
      intro error isMisconfigured
      cases isDone.symm.trans isMisconfigured

/-- A session at a given rate, with broken settings and with none. -/
theorem run_eq_with_broken_settings :
    let broken : Surroundings :=
      { folder := ⟨none, [("addtime.toml", "calculator = [")]⟩
        environment := [("ADDTIME_CALCULATOR__QUANTUM_PER_SECOND", "5000")]
        input := "17\n" }
    let bare : Surroundings := { folder := ⟨none, []⟩, environment := [], input := "17\n" }
    let arguments := ["--config", "lost.toml", "repl", "--fps", "30"]
    (Arguments.ofList arguments).NeedNoSettings ∧ broken.input = bare.input ∧
      run broken arguments = run bare arguments ∧
      run bare arguments = .done 0 "033\n" "" ∧
      ∀ error, run broken arguments ≠ .misconfigured error := by
  intro broken bare arguments
  have noNeed : (Arguments.ofList arguments).NeedNoSettings := by
    have scanned : Arguments.ofList arguments =
        .named { fields := [(.settingsPath, "lost.toml")] } .interact
          { fields := [(.frames, "30")] } := by decide +kernel
    rw [scanned]
    exact .inr rfl
  have same := run_eq_of_needNoSettings noNeed (show broken.input = bare.input from rfl)
  exact ⟨noNeed, rfl, same.1, by decide +kernel, same.2⟩

/-- Where the arguments leave the rate open the settings do matter. -/
example :
    let bare : Surroundings := { folder := ⟨none, []⟩, environment := [], input := "" }
    let given := [("ADDTIME_CALCULATOR__QUANTUM_PER_SECOND", "30")]
    run { bare with environment := given } ["calc", "17"] = .done 0 "033\n" "" ∧
      run bare ["calc", "17"] = .done 0 "017\n" "" := by
  decide +kernel

end Program

end DurationCalc
