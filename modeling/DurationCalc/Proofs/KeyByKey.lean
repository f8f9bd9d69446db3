import DurationCalc.Proofs.WrittenPaths

/-!
# Trees merge key by key

What a merged tree has under a key depends on what the layers have under that key
and on nothing else. To say so of a layer its keys have to be distinct, which they
are in every tree that named settings give, at the root and in the tables right
below it.
-/

namespace DurationCalc.Setting

/-- No key occurs twice. -/
def HasDistinctKeys (setting : Setting) : Prop :=
  (setting.entries.map Prod.fst).Nodup

theorem mem_keys_putEntry {key other : String} {value : Setting}
    {entries : List (String × Setting)}
    (isThere : other ∈ (putEntry key value entries).map Prod.fst) :
    other = key ∨ other ∈ entries.map Prod.fst := by
  obtain ⟨entry, isEntry, rfl⟩ := List.mem_map.mp isThere
  rcases eq_or_mem_of_mem_putEntry isEntry with rfl | before
  · exact .inl rfl
  · exact .inr (List.mem_map_of_mem before)

theorem nodup_keys_putEntry {entries : List (String × Setting)}
    (distinct : (entries.map Prod.fst).Nodup) (key : String) (value : Setting) :
    ((putEntry key value entries).map Prod.fst).Nodup := by
  induction entries with
  | nil => simp [putEntry]
  | cons entry later ih =>
      obtain ⟨name, old⟩ := entry
      rw [List.map_cons, List.nodup_cons] at distinct
      by_cases same : name = key
      · subst name
        simpa [putEntry] using distinct
      · rw [putEntry, if_neg same, List.map_cons, List.nodup_cons]
        refine ⟨?_, ih distinct.2⟩
        intro again
        rcases mem_keys_putEntry again with isKey | isLater
        · exact same isKey
        · exact distinct.1 isLater

theorem nodup_keys_overlayEntries (entries : List (String × Setting))
    {below : List (String × Setting)} (distinct : (below.map Prod.fst).Nodup) :
    ((overlayEntries below entries).map Prod.fst).Nodup := by
  induction entries generalizing below with
  | nil => exact distinct
  | cons entry later ih => exact ih (nodup_keys_putEntry distinct _ _)

theorem hasDistinctKeys_absent : HasDistinctKeys absent := List.nodup_nil

theorem HasDistinctKeys.put {setting : Setting} (distinct : setting.HasDistinctKeys)
    (key : String) (value : Setting) : (setting.put key value).HasDistinctKeys :=
  nodup_keys_putEntry distinct key value

theorem HasDistinctKeys.overlay {below : Setting} (distinct : below.HasDistinctKeys)
    (value : Setting) : (below.overlay value).HasDistinctKeys := by
  cases value with
  | table entries => exact nodup_keys_overlayEntries entries distinct
  | _ => exact List.nodup_nil

theorem HasDistinctKeys.overlayAt {below : Setting} (distinct : below.HasDistinctKeys)
    (value : Setting) (path : Path) : (overlayAt value path below).HasDistinctKeys := by
  cases path with
  | nil => exact distinct.overlay value
  | cons step later =>
      cases step with
      | key name => exact distinct.put name _
      | position index => exact List.nodup_nil

theorem lookup_overlayEntries_of_lookup_eq_none {key : String}
    {entries : List (String × Setting)} (lacks : entries.lookup key = none)
    (below : List (String × Setting)) :
    (overlayEntries below entries).lookup key = below.lookup key := by
  induction entries generalizing below with
  | nil => rfl
  | cons entry later ih =>
      obtain ⟨name, value⟩ := entry
      by_cases same : key = name
      · subst name
        simp at lacks
      · have differs : (key == name) = false := by simp [same]
        rw [List.lookup_cons, differs] at lacks
        rw [overlayEntries, ih lacks, lookup_putEntry_of_ne same]

theorem lookup_overlayEntries_congr {key : String} {below other : List (String × Setting)}
    (same : below.lookup key = other.lookup key) (entries : List (String × Setting)) :
    (overlayEntries below entries).lookup key = (overlayEntries other entries).lookup key := by
  induction entries generalizing below other with
  | nil => exact same
  | cons entry later ih =>
      obtain ⟨name, value⟩ := entry
      apply ih
      by_cases isKey : key = name
      · subst name
        rw [lookup_putEntry_self, lookup_putEntry_self, same]
      · rw [lookup_putEntry_of_ne isKey, lookup_putEntry_of_ne isKey, same]

/-- A tree as named settings give it. -/
structure IsTidy (tree : Setting) : Prop where
  isTable : tree = .table tree.entries
  distinct : tree.HasDistinctKeys
  distinctBelow : ∀ {key setting}, tree.lookup key = some setting → setting.HasDistinctKeys

theorem IsTidy.overlayAt_ofName {tree : Setting} (tidy : tree.IsTidy) (value : Setting)
    (name : String) : (overlayAt value (Path.ofName name) tree).IsTidy := by
  obtain ⟨first, later, written⟩ := Path.exists_ofName_eq_key_cons name
  rw [written]
  refine ⟨rfl, tidy.distinct.overlayAt value _, ?_⟩
  intro key setting found
  by_cases isFirst : key = first
  · subst key
    rw [lookup_overlayAt_key, Option.some.injEq] at found
    subst found
    cases before : tree.lookup first with
    | none => exact hasDistinctKeys_absent.overlayAt value later
    | some old => exact (tidy.distinctBelow before).overlayAt value later
  · rw [lookup_overlayAt_key_of_ne isFirst] at found
    exact tidy.distinctBelow found

/-- Lay named settings over a tree, one after the other. -/
def overlayNamed (tree : Setting) (named : List (String × Setting)) : Setting :=
  named.foldl (fun tree (name, value) => overlayAt value (Path.ofName name) tree) tree

theorem overlayNamed_cons (tree : Setting) (name : String) (value : Setting)
    (later : List (String × Setting)) :
    overlayNamed tree ((name, value) :: later) =
      overlayNamed (overlayAt value (Path.ofName name) tree) later := rfl

theorem IsTidy.overlayNamed {tree : Setting} (tidy : tree.IsTidy)
    (named : List (String × Setting)) : (overlayNamed tree named).IsTidy := by
  induction named generalizing tree with
  | nil => exact tidy
  | cons entry later ih => exact ih (tidy.overlayAt_ofName entry.2 entry.1)

end DurationCalc.Setting
