import DurationCalc.Text.Decimal

/-!
# Trees of settings

Settings form a tree of tables. A tree may be laid over another one: tables are
merged key by key and every other value replaces what is below it. A table laid
over something that is no table takes its place.
-/

namespace DurationCalc

/-- A setting as it is written in a file or an environment variable. -/
inductive Setting where
  | absent
  | truth (value : Bool)
  | integer (value : Int)
  | fraction (value : Binary64)
  | text (value : String)
  | sequence (items : List Setting)
  | table (entries : List (String × Setting))
deriving Repr

namespace Setting

/-- The entries of a setting. Nothing but a table has any. -/
def entries : Setting → List (String × Setting)
  | table entries => entries
  | _ => []

/-- The items of a setting. Nothing but a sequence has any. -/
def items : Setting → List Setting
  | sequence items => items
  | _ => []

def lookup (setting : Setting) (key : String) : Option Setting :=
  setting.entries.lookup key

/-- Replace the value under a key in a list of entries, or add it at the end. -/
def putEntry (key : String) (value : Setting) : List (String × Setting) → List (String × Setting)
  | [] => [(key, value)]
  | (other, old) :: later =>
      if other = key then (key, value) :: later else (other, old) :: putEntry key value later

/-- Set the value under a key. What is no table is replaced by one. -/
def put (setting : Setting) (key : String) (value : Setting) : Setting :=
  table (putEntry key value setting.entries)

mutual

/-- Lay a tree over another one. -/
def overlay (below : Setting) : Setting → Setting
  | .table entries => .table (overlayEntries below.entries entries)
  | .absent => .absent
  | .truth value => .truth value
  | .integer value => .integer value
  | .fraction value => .fraction value
  | .text value => .text value
  | .sequence items => .sequence items

def overlayEntries (below : List (String × Setting)) :
    List (String × Setting) → List (String × Setting)
  | [] => below
  | (key, value) :: later =>
      overlayEntries (putEntry key (overlay ((below.lookup key).getD .absent) value) below) later

end

def isSignedWord (value : Int) : Bool :=
  -0x8000000000000000 ≤ value && value < 0x8000000000000000

def isUnsignedWord (value : Int) : Bool :=
  0 ≤ value && value < 0x10000000000000000

/-- The largest number that a count may have. -/
def greatestCount : Nat := 0xffffffff

/-- The count that a word or a numeral stands for. -/
def countOfText (text : String) : Option Nat :=
  let word := String.ofList (Text.lowercase text.toList)
  if word = "true" || word = "on" || word = "yes" then some 1
  else if word = "false" || word = "off" || word = "no" then some 0
  else Text.plusNumeral? text.toList

/-- The whole number that a setting stands for, if it stands for one that is not negative. -/
def natural? : Setting → Option Nat
  | truth value => some (if value then 1 else 0)
  | integer value => if value < 0 then none else some value.toNat
  | fraction value => value.toNat?
  | text value => countOfText value
  | _ => none

/--
The count that a setting stands for: a whole number in range, a fraction rounded
to one, a truth value as one or zero, or a text that says one of these.
-/
def count? (setting : Setting) : Option Nat :=
  setting.natural?.filter fun value => value ≤ greatestCount

/-- The count that a setting is: a whole number in range, and nothing that merely stands for one. -/
def exactCount? : Setting → Option Nat
  | integer value => if 0 ≤ value ∧ value ≤ greatestCount then some value.toNat else none
  | _ => none

theorem eq_or_mem_of_mem_putEntry {key : String} {value : Setting}
    {entries : List (String × Setting)} {entry : String × Setting}
    (isThere : entry ∈ putEntry key value entries) : entry = (key, value) ∨ entry ∈ entries := by
  induction entries with
  | nil => exact .inl (List.mem_singleton.mp isThere)
  | cons first later ih =>
      obtain ⟨other, old⟩ := first
      rw [putEntry] at isThere
      split at isThere
      · exact (List.mem_cons.mp isThere).imp_right (List.mem_cons_of_mem _)
      · rcases List.mem_cons.mp isThere with rfl | isLater
        · exact .inr List.mem_cons_self
        · exact (ih isLater).imp_right (List.mem_cons_of_mem _)

@[simp] theorem lookup_putEntry_self (key : String) (value : Setting)
    (entries : List (String × Setting)) : (putEntry key value entries).lookup key = some value := by
  induction entries with
  | nil => simp [putEntry]
  | cons entry later ih =>
      obtain ⟨other, old⟩ := entry
      by_cases same : other = key
      · simp [putEntry, same]
      · have differs : (key == other) = false := by simp [Ne.symm same]
        simp [putEntry, same, List.lookup_cons, differs, ih]

theorem lookup_putEntry_of_ne {key other : String} (differs : other ≠ key) (value : Setting)
    (entries : List (String × Setting)) :
    (putEntry key value entries).lookup other = entries.lookup other := by
  have notKey : (other == key) = false := by simp [differs]
  induction entries with
  | nil => simp [putEntry, List.lookup_cons, notKey]
  | cons entry later ih =>
      obtain ⟨name, old⟩ := entry
      by_cases same : name = key
      · subst name
        simp [putEntry, List.lookup_cons, notKey]
      · simp only [putEntry, if_neg same, List.lookup_cons, ih]

@[simp] theorem lookup_put_self (setting : Setting) (key : String) (value : Setting) :
    (setting.put key value).lookup key = some value :=
  lookup_putEntry_self key value setting.entries

theorem lookup_put_of_ne {key other : String} (differs : other ≠ key) (setting value : Setting) :
    (setting.put key value).lookup other = setting.lookup other :=
  lookup_putEntry_of_ne differs value setting.entries

end Setting

end DurationCalc
