import DurationCalc.Settings.Path

/-!
# Written paths start with a key

A name that reads as a path gives the keys and positions it is written with, and
the first of them is a key. A name that is no written path is a key itself. So a
setting that has a name always lands in a table.
-/

namespace DurationCalc

namespace Reader

variable {α β : Type} {step : β → Reader (β ⊕ α)} (Kept : β → Prop) (Reached : α → Prop)
  (keeps : ∀ {state outcome characters rest}, Kept state →
    (step state).run characters = some (outcome, rest) → Sum.elim Kept Reached outcome)
include keeps

theorem repeatAtMost_keeps {bound : Nat} {state : β} {characters rest : List Char} {result : α}
    (kept : Kept state)
    (done : (repeatAtMost step bound state).run characters = some (result, rest)) :
    Reached result := by
  induction bound generalizing state characters with
  | zero => cases done
  | succ bound ih =>
      rw [repeatAtMost, StateT.run_bind] at done
      obtain ⟨⟨outcome, later⟩, stepped, continued⟩ := Option.bind_eq_some_iff.mp done
      have outcomeKept := keeps kept stepped
      cases outcome with
      | inl next => exact ih outcomeKept continued
      | inr value =>
          cases continued
          exact outcomeKept

/-- What every step of a loop keeps is there when the loop ends. -/
theorem untilDone_keeps {start : β} {characters rest : List Char} {result : α}
    (kept : Kept start) (done : (untilDone step start).run characters = some (result, rest)) :
    Reached result :=
  repeatAtMost_keeps Kept Reached keeps kept done

end Reader

namespace Path

theorem exists_eq_key {characters rest : List Char} {taken : Step}
    (read : key.run characters = some (taken, rest)) : ∃ name, taken = .key name := by
  rw [key, StateT.run_bind] at read
  obtain ⟨⟨name, later⟩, _, finished⟩ := Option.bind_eq_some_iff.mp read
  dsimp only at finished
  split at finished
  · cases finished
  · cases finished
    exact ⟨_, rfl⟩

theorem exists_eq_key_cons_of_reader {characters rest : List Char} {path : Path}
    (read : reader.run characters = some (path, rest)) :
    ∃ name later, path = .key name :: later := by
  rw [reader, StateT.run_bind] at read
  obtain ⟨⟨root, afterRoot⟩, readRoot, readLater⟩ := Option.bind_eq_some_iff.mp read
  obtain ⟨name, rfl⟩ := exists_eq_key readRoot
  dsimp only at readLater
  rw [StateT.run_bind] at readLater
  obtain ⟨⟨reversed, afterAll⟩, looped, finished⟩ := Option.bind_eq_some_iff.mp readLater
  -- The steps are collected in reverse, so the key stays at the end of them.
  have rootIsLast : [Step.key name] <:+ reversed := by
    refine Reader.untilDone_keeps ([Step.key name] <:+ ·) ([Step.key name] <:+ ·) ?_
      List.suffix_rfl looped
    intro taken outcome before after kept stepped
    have grows (newest : Step) : [Step.key name] <:+ newest :: taken :=
      kept.trans (List.suffix_cons newest taken)
    rw [StateT.run_bind] at stepped
    obtain ⟨⟨isPoint, afterPoint⟩, _, stepped⟩ := Option.bind_eq_some_iff.mp stepped
    cases isPoint with
    | true =>
        obtain ⟨⟨newest, _⟩, _, ended⟩ := Option.bind_eq_some_iff.mp stepped
        cases ended
        exact grows newest
    | false =>
        obtain ⟨⟨isBracket, _⟩, _, stepped⟩ := Option.bind_eq_some_iff.mp stepped
        cases isBracket with
        | true =>
            obtain ⟨⟨newest, _⟩, _, ended⟩ := Option.bind_eq_some_iff.mp stepped
            cases ended
            exact grows newest
        | false =>
            cases stepped
            exact kept
  obtain ⟨newer, rfl⟩ := rootIsLast
  cases finished
  exact ⟨name, newer.reverse, List.reverse_concat⟩

theorem exists_ofName_eq_key_cons (name : String) :
    ∃ first later, ofName name = .key first :: later := by
  unfold ofName Reader.readAll
  split
  · rename_i path read
    exact exists_eq_key_cons_of_reader read
  · exact ⟨name, [], rfl⟩

end Path

end DurationCalc
