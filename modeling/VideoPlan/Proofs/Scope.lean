import Mathlib.Data.List.Nodup
import VideoPlan.Proofs.Entries
import VideoPlan.Scope

/-!
# Columns of scopes

Whatever a scope answers, by name or as a list, is one of its columns, and the columns of the scope of a
dataset are columns of the dataset. A name finds the last column that has this name but for case
(`find?_ofColumns`).
-/

namespace VideoPlan.Scope

theorem mem_columns {scope : Scope} {column : Column} :
    column ∈ scope.columns ↔ ∃ key, (key, column) ∈ scope.entries := by
  unfold columns
  rw [List.mem_mergeSort, List.mem_map]
  exact ⟨fun ⟨(key, _), member, equal⟩ => ⟨key, equal ▸ member⟩,
    fun ⟨key, member⟩ => ⟨(key, column), member, rfl⟩⟩

theorem mem_columnsInOrder {scope : Scope} {column : Column} :
    column ∈ scope.columnsInOrder ↔ column ∈ scope.columns := by
  unfold columnsInOrder
  rw [List.mem_mergeSort]

theorem mem_columns_of_find? {scope : Scope} {name : String} {column : Column}
    (found : scope.find? name = some column) : column ∈ scope.columns := by
  exact mem_columns.mpr ⟨Text.lowercase name, mem_of_lookup found⟩

theorem resolve_eq_ok {scope : Scope} {name : String} {column : Column} :
    scope.resolve name = .ok column ↔ scope.find? name = some column := by
  unfold resolve
  cases scope.find? name with
  | none => constructor <;> (intro h; cases h)
  | some found => constructor <;> (intro h; cases h; rfl)

/-! ## Scopes of datasets -/

/-- Placing an entry adds nothing but this entry. -/
theorem mem_place {key : String} {column : Column} {entries : List (String × Column)}
    {entry : String × Column} (member : entry ∈ place key column entries) :
    entry = (key, column) ∨ entry ∈ entries := by
  induction entries with
  | nil => exact .inl (List.mem_singleton.mp member)
  | cons first entries ih =>
    unfold place at member
    split at member
    · rcases List.mem_cons.mp member with equal | member
      · exact .inl equal
      · exact .inr (List.mem_cons_of_mem first member)
    · rcases List.mem_cons.mp member with equal | member
      · exact .inr (equal ▸ List.mem_cons_self)
      · exact (ih member).imp id (List.mem_cons_of_mem first)

theorem mem_columns_insert {scope : Scope} {column column' : Column}
    (member : column' ∈ (scope.insert column).2.columns) :
    column' = column ∨ column' ∈ scope.columns := by
  obtain ⟨key, member⟩ := mem_columns.mp member
  rcases mem_place member with equal | member
  · exact .inl (congrArg Prod.snd equal)
  · exact .inr (mem_columns.mpr ⟨key, member⟩)

theorem mem_columns_ofColumns {columns : List Column} {column : Column}
    (member : column ∈ (ofColumns columns).columns) : column ∈ columns := by
  -- the columns inserted so far are those of the list or of the scope that the fold started with
  suffices general : ∀ scope : Scope,
      column ∈ (columns.foldl (fun scope column => (scope.insert column).2) scope).columns →
      column ∈ columns ∨ column ∈ scope.columns by
    refine (general empty member).resolve_right fun none => ?_
    obtain ⟨key, entry⟩ := mem_columns.mp none
    cases entry
  clear member
  induction columns with
  | nil => exact fun scope member => .inr member
  | cons first columns ih =>
    intro scope member
    rcases ih _ member with member | member
    · exact .inl (List.mem_cons_of_mem first member)
    · rcases mem_columns_insert member with equal | member
      · exact .inl (equal ▸ List.mem_cons_self)
      · exact .inr member

theorem mem_columns_ofDataset {dataset : Dataset} {column : Column}
    (member : column ∈ (ofDataset dataset).columns) : column ∈ dataset.columns :=
  mem_columns_ofColumns member

/-! ## Keys -/

/-- Each column lies under its own name in lower case. -/
def Keyed (scope : Scope) : Prop :=
  ∀ entry ∈ scope.entries, entry.1 = Text.lowercase entry.2.name

theorem Keyed.insert {scope : Scope} (keyed : scope.Keyed) (column : Column) :
    (scope.insert column).2.Keyed := by
  intro entry member
  rcases mem_place member with equal | member
  · rw [equal]
  · exact keyed entry member

theorem keyed_ofColumns (columns : List Column) : (ofColumns columns).Keyed := by
  suffices general : ∀ scope : Scope, scope.Keyed →
      (columns.foldl (fun scope column => (scope.insert column).2) scope).Keyed from
    general empty fun entry member => nomatch member
  induction columns with
  | nil => exact fun scope keyed => keyed
  | cons first columns ih => exact fun scope keyed => ih _ (keyed.insert first)

/-- What is found under a name has this name, but for case. -/
theorem Keyed.lowercase_name {scope : Scope} (keyed : scope.Keyed) {name : String} {column : Column}
    (found : scope.find? name = some column) : Text.lowercase column.name = Text.lowercase name := by
  exact (keyed (Text.lowercase name, column) (mem_of_lookup found)).symm

/-! ## The last column of a name

Each insertion replaces what lies under the name, so the columns that came before are found no more. -/

/-- The last of the columns that has this name but for case. -/
def lastNamed? (columns : List Column) (name : String) : Option Column :=
  columns.reverse.find? fun column => Text.lowercase column.name = Text.lowercase name

theorem lastNamed?_cons (column : Column) (columns : List Column) (name : String) :
    lastNamed? (column :: columns) name =
      (lastNamed? columns name).or
        (if Text.lowercase column.name = Text.lowercase name then some column else none) := by
  unfold lastNamed?
  rw [List.reverse_cons, List.find?_append, List.find?_singleton]
  simp only [decide_eq_true_eq]

theorem lookup_place (key key' : String) (column : Column) (entries : List (String × Column)) :
    (place key column entries).lookup key' =
      if key' = key then some column else entries.lookup key' := by
  induction entries with
  | nil => exact lookup_entry key key' column []
  | cons entry entries ih =>
    obtain ⟨first, kept⟩ := entry
    unfold place
    by_cases taken : first = key
    · -- the new entry stands where the old one was
      rw [if_pos taken, lookup_entry, lookup_entry, taken]
      by_cases same : key' = key
      · rw [if_pos same, if_pos same]
      · rw [if_neg same, if_neg same, if_neg same]
    · rw [if_neg taken, lookup_entry, lookup_entry, ih]
      by_cases here : key' = first
      · have other : key' ≠ key := fun same => taken (here.symm.trans same)
        rw [if_pos here, if_neg other, if_pos here]
      · rw [if_neg here, if_neg here]

theorem find?_insert (scope : Scope) (column : Column) (name : String) :
    (scope.insert column).2.find? name =
      if Text.lowercase column.name = Text.lowercase name then some column else scope.find? name := by
  show (place (Text.lowercase column.name) column scope.entries).lookup (Text.lowercase name) = _
  rw [lookup_place]
  simp only [eq_comm]
  rfl

/-- In the scope of columns a name finds the last column that has it. -/
theorem find?_ofColumns (columns : List Column) (name : String) :
    (ofColumns columns).find? name = lastNamed? columns name := by
  -- a name that none of the columns has finds what it found in the scope that the fold started with
  suffices general : ∀ scope : Scope,
      (columns.foldl (fun scope column => (scope.insert column).2) scope).find? name =
        (lastNamed? columns name).or (scope.find? name) by
    have nothing : empty.find? name = none := rfl
    rw [ofColumns, general, nothing, Option.or_none]
  induction columns with
  | nil => exact fun scope => rfl
  | cons column columns ih =>
    intro scope
    rw [List.foldl_cons, ih, find?_insert, lastNamed?_cons, Option.or_assoc]
    split <;> rfl

theorem find?_ofDataset (dataset : Dataset) (name : String) :
    (ofDataset dataset).find? name = lastNamed? dataset.columns name :=
  find?_ofColumns dataset.columns name

section

variable {columns : List Column} {name : String} {column : Column}

theorem mem_of_lastNamed? (found : lastNamed? columns name = some column) : column ∈ columns :=
  List.mem_reverse.mp (List.mem_of_find?_eq_some found)

theorem lowercase_name_of_lastNamed? (found : lastNamed? columns name = some column) :
    Text.lowercase column.name = Text.lowercase name := by
  unfold lastNamed? at found
  simpa using List.find?_some found

theorem lastNamed?_isSome_iff : (lastNamed? columns name).isSome = true ↔
    ∃ column ∈ columns, Text.lowercase column.name = Text.lowercase name := by
  unfold lastNamed?
  simp [List.find?_isSome]

theorem lastNamed?_congr (columns : List Column) {name name' : String}
    (same : Text.lowercase name = Text.lowercase name') :
    lastNamed? columns name = lastNamed? columns name' := by
  unfold lastNamed?
  rw [same]

/-- Two names of which one has a column find the same exactly if they differ in case only. -/
theorem lastNamed?_eq_iff {name' : String} (found : lastNamed? columns name = some column) :
    lastNamed? columns name = lastNamed? columns name' ↔
      Text.lowercase name = Text.lowercase name' := by
  constructor
  · intro same
    rw [same] at found
    have hname := lowercase_name_of_lastNamed? (same.trans found)
    exact hname.symm.trans (lowercase_name_of_lastNamed? found)
  · exact lastNamed?_congr columns

/-- Where no two columns share a name, each is found under its own. -/
theorem lastNamed?_name (distinct : (columns.map fun column => Text.lowercase column.name).Nodup)
    (member : column ∈ columns) : lastNamed? columns column.name = some column := by
  have found : (lastNamed? columns column.name).isSome = true :=
    lastNamed?_isSome_iff.mpr ⟨column, member, rfl⟩
  obtain ⟨last, found⟩ := Option.isSome_iff_exists.mp found
  have same : last = column :=
    List.inj_on_of_nodup_map distinct (mem_of_lastNamed? found) member
      (lowercase_name_of_lastNamed? found)
  rw [found, same]

/-- Each of different columns is found under its own name exactly if no two of them share a name. -/
theorem forall_lastNamed?_name_iff (different : columns.Nodup) :
    (∀ column ∈ columns, lastNamed? columns column.name = some column) ↔
      (columns.map fun column => Text.lowercase column.name).Nodup := by
  constructor
  · intro found
    refine List.Nodup.map_on (fun column member column' member' same => ?_) different
    have both := lastNamed?_congr columns same
    rw [found column member, found column' member'] at both
    exact Option.some.inj both
  · exact fun distinct column member => lastNamed?_name distinct member

end

end VideoPlan.Scope
