import DurationCalc.Proofs.KeyByKey
import DurationCalc.Proofs.VariableLayer
import DurationCalc.Settings.Load
import Mathlib.Control.Monad.Basic

/-!
# Layers of settings override before anything is checked

The rate is read off the merged tree and checked there. A variable that gives it
hides what a file says about it, however wrong that may be, and where no layer
says anything the default stands. A layer speaks of the rate by its table for the
calculator, but also by a name that is a written path into this table. As long as
one variable speaks alone, or nothing does, the outcome does not hang on the order
in which names are laid; where several variables speak, it does.
-/

namespace DurationCalc.Settings

open Setting (overlayNamed overlayAt)

/-- Two trees agree on the rate, by what they have under the key of the calculator. -/
inductive AgreeOnRate : Option Setting → Option Setting → Prop where
  | same (found : Option Setting) : AgreeOnRate found found
  | tables {entries others : List (String × Setting)} :
      entries.lookup rateKey = others.lookup rateKey →
      AgreeOnRate (some (.table entries)) (some (.table others))

theorem AgreeOnRate.overlayAt {found other : Option Setting} (agree : AgreeOnRate found other)
    (value : Setting) (path : Path) :
    AgreeOnRate (some (overlayAt value path (found.getD .absent)))
      (some (overlayAt value path (other.getD .absent))) := by
  cases agree with
  | same => exact .same _
  | @tables entries others sameRate =>
      cases path with
      | nil =>
          cases value with
          | table laid => exact .tables (Setting.lookup_overlayEntries_congr sameRate laid)
          | _ => exact .same _
      | cons step later =>
          cases step with
          | key name =>
              apply AgreeOnRate.tables
              by_cases isRate : rateKey = name
              · subst isRate
                rw [Setting.lookup_putEntry_self, Setting.lookup_putEntry_self]
                simp only [Option.getD_some, Setting.lookup, Setting.entries, sameRate]
              · rw [Setting.lookup_putEntry_of_ne isRate, Setting.lookup_putEntry_of_ne isRate]
                exact sameRate
          | position index => exact .same _

theorem AgreeOnRate.overlayNamed {tree other : Setting}
    (agree : AgreeOnRate (tree.lookup tableKey) (other.lookup tableKey))
    (named : List (String × Setting)) :
    AgreeOnRate ((overlayNamed tree named).lookup tableKey)
      ((overlayNamed other named).lookup tableKey) := by
  -- Only the agreement is carried along: later names may add tables or positions beside the rate.
  induction named generalizing tree other with
  | nil => exact agree
  | cons entry later ih =>
      obtain ⟨name, value⟩ := entry
      obtain ⟨first, rest, written⟩ := Path.exists_ofName_eq_key_cons name
      rw [Setting.overlayNamed_cons, Setting.overlayNamed_cons]
      apply ih
      rw [written]
      by_cases isTable : tableKey = first
      · subst isTable
        rw [Setting.lookup_overlayAt_key, Setting.lookup_overlayAt_key]
        exact agree.overlayAt value rest
      · rw [Setting.lookup_overlayAt_key_of_ne isTable, Setting.lookup_overlayAt_key_of_ne isTable]
        exact agree

/-- A table, but without the rate. -/
def lacksRate : Setting → Bool
  | .table entries => (entries.lookup rateKey).isNone
  | _ => false

/--
A named setting is silent when it lies elsewhere, when it lies beside the rate in
the table of the calculator, or when it is that table and lacks the rate.
-/
def isSilent (named : String × Setting) : Bool :=
  match Path.ofName named.1 with
  | .key first :: later =>
      first ≠ tableKey ||
        match later with
        | [] => lacksRate named.2
        | .key name :: _ => name ≠ rateKey
        | .position _ :: _ => false
  | _ => true

/-- The tree has this rate, or none, and nothing but a table in the place of the calculator's. -/
def StatesRate (tree : Setting) (rate : Option Setting) : Prop :=
  (tree.lookup tableKey = none ∧ rate = none) ∨
    ∃ entries, tree.lookup tableKey = some (.table entries) ∧ entries.lookup rateKey = rate

theorem StatesRate.rateUnder {tree : Setting} {rate : Option Setting}
    (states : StatesRate tree rate) :
    ((tree.lookup tableKey).getD .absent).lookup rateKey = rate := by
  rcases states with ⟨found, rfl⟩ | ⟨entries, found, inTable⟩
  · rw [found]
    rfl
  · rw [found]
    exact inTable

theorem StatesRate.overlayAt {tree : Setting} {rate : Option Setting}
    (states : StatesRate tree rate) {name : String} {value : Setting}
    (silent : isSilent (name, value) = true) :
    StatesRate (overlayAt value (Path.ofName name) tree) rate := by
  obtain ⟨first, later, written⟩ := Path.exists_ofName_eq_key_cons name
  simp only [isSilent, written, Bool.or_eq_true, decide_eq_true_eq] at silent
  rw [written]
  by_cases isTable : tableKey = first
  · subst isTable
    have inside := silent.resolve_left (fun differs => differs rfl)
    unfold StatesRate
    rw [Setting.lookup_overlayAt_key]
    right
    cases later with
    | nil =>
        cases value with
        | table entries =>
            have lacks : entries.lookup rateKey = none := by simpa [lacksRate] using inside
            refine ⟨_, rfl, ?_⟩
            rw [Setting.lookup_overlayEntries_of_lookup_eq_none lacks]
            exact states.rateUnder
        | _ => cases inside
    | cons step rest =>
        cases step with
        | key other =>
            have differs : rateKey ≠ other := Ne.symm (by simpa using inside)
            refine ⟨_, rfl, ?_⟩
            rw [Setting.lookup_putEntry_of_ne differs]
            exact states.rateUnder
        | position index => cases inside
  · unfold StatesRate
    rw [Setting.lookup_overlayAt_key_of_ne isTable]
    exact states

/-- What each of the named settings keeps, all of them keep, one after the other. -/
theorem StatesRate.overlayNamed {tree : Setting} {rate : Option Setting}
    (states : StatesRate tree rate) {named : List (String × Setting)}
    (keeps : ∀ given ∈ named, ∀ {below : Setting}, StatesRate below rate →
      StatesRate (Setting.overlayAt given.2 (Path.ofName given.1) below) rate) :
    StatesRate (overlayNamed tree named) rate := by
  induction named generalizing tree with
  | nil => exact states
  | cons given later ih =>
      rw [List.forall_mem_cons] at keeps
      rw [Setting.overlayNamed_cons]
      exact ih (keeps.1 states) keeps.2

end DurationCalc.Settings
