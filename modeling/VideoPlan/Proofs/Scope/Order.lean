import VideoPlan.Proofs.Scope

/-!
# The order of the columns of a scope

A scope finds its columns by name and keeps them in no order of its own. Of given columns it keeps those that
no later one shadows (`perm_ofColumns`). If each of them has its own position, sorting by position gives one
list, in whatever order the entries are enumerated (`byPosition_ofColumns`).
-/

namespace VideoPlan.Scope

open Text

/-! ## Columns by position -/

/-- The columns of enumerated entries by position; columns with the same position stay as they come. -/
def byPosition (enumeration : List (String × Column)) : List Column :=
  (enumeration.map (·.2)).mergeSort fun a b => a.index ≤ b.index

theorem sorted_by_index (columns : List Column) :
    (columns.mergeSort fun a b => a.index ≤ b.index).Pairwise fun a b => a.index ≤ b.index := by
  refine (List.pairwise_mergeSort ?_ ?_ columns).imp of_decide_eq_true
  · intro a b c left right
    exact decide_eq_true (Nat.le_trans (of_decide_eq_true left) (of_decide_eq_true right))
  · intro a b
    simpa using Nat.le_total a.index b.index

/-- Sorting by position leaves no choice where the positions of the columns increase. -/
theorem mergeSort_eq {columns enumerated : List Column} (same : enumerated.Perm columns)
    (increasing : columns.Pairwise fun a b => a.index < b.index) :
    (enumerated.mergeSort fun a b => a.index ≤ b.index) = columns := by
  have distinct : (columns.map (·.index)).Nodup :=
    List.pairwise_map.mpr (increasing.imp Nat.ne_of_lt)
  have sorted : columns.Pairwise fun a b => a.index ≤ b.index := increasing.imp Nat.le_of_lt
  have perm := (List.mergeSort_perm enumerated fun a b => decide (a.index ≤ b.index)).trans same
  refine List.Perm.eq_of_pairwise ?_ (sorted_by_index enumerated) sorted perm
  intro a b member member' before after
  exact List.inj_on_of_nodup_map distinct (perm.mem_iff.mp member) member'
    (Nat.le_antisymm before after)

/-! ## Columns that are not shadowed -/

/-- The columns that no later one shadows by having the same name but for case. -/
def unshadowed : List Column → List Column
  | [] => []
  | column :: later =>
    if ∃ other ∈ later, lowercase other.name = lowercase column.name then unshadowed later
    else column :: unshadowed later

theorem unshadowed_sublist (columns : List Column) : (unshadowed columns).Sublist columns := by
  induction columns with
  | nil => exact .slnil
  | cons column later ih =>
    unfold unshadowed
    split
    · exact ih.cons column
    · exact ih.cons_cons column

theorem mem_unshadowed {columns : List Column} {column : Column} :
    column ∈ unshadowed columns ↔ ∃ before later, columns = before ++ column :: later ∧
      ∀ other ∈ later, lowercase other.name ≠ lowercase column.name := by
  induction columns with
  | nil => simp [unshadowed]
  | cons first columns ih =>
    constructor
    · intro member
      have behind (member : column ∈ unshadowed columns) :
          ∃ before later, first :: columns = before ++ column :: later ∧
            ∀ other ∈ later, lowercase other.name ≠ lowercase column.name := by
        obtain ⟨before, later, rfl, last⟩ := ih.mp member
        exact ⟨first :: before, later, rfl, last⟩
      unfold unshadowed at member
      split at member
      · exact behind member
      · rename_i visible
        rcases List.mem_cons.mp member with rfl | member
        · exact ⟨[], columns, rfl, fun other later same => visible ⟨other, later, same⟩⟩
        · exact behind member
    · rintro ⟨before, later, split, last⟩
      unfold unshadowed
      cases before with
      | nil =>
        obtain ⟨rfl, rfl⟩ := List.cons.inj split
        rw [if_neg fun ⟨other, member, same⟩ => last other member same]
        exact List.mem_cons_self
      | cons _ before =>
        obtain ⟨rfl, behind⟩ := List.cons.inj split
        have member := ih.mpr ⟨before, later, behind, last⟩
        split
        · exact member
        · exact List.mem_cons_of_mem first member

/-- A column that is not shadowed is the one that its name finds. -/
theorem mem_unshadowed_iff_lastNamed? {columns : List Column} {column : Column} :
    column ∈ unshadowed columns ↔ lastNamed? columns column.name = some column := by
  unfold lastNamed?
  rw [mem_unshadowed, List.find?_eq_some_iff_append]
  constructor
  · rintro ⟨before, later, rfl, last⟩
    refine ⟨decide_eq_true rfl, later.reverse, before.reverse, by simp, ?_⟩
    intro other member
    simpa using last other (List.mem_reverse.mp member)
  · rintro ⟨-, later, before, reversed, last⟩
    refine ⟨before.reverse, later.reverse, ?_, ?_⟩
    · rw [← List.reverse_reverse columns, reversed]
      simp
    · intro other member
      simpa using last other (List.mem_reverse.mp member)

theorem nodup_unshadowed_names (columns : List Column) :
    ((unshadowed columns).map fun column => lowercase column.name).Nodup := by
  induction columns with
  | nil => exact List.nodup_nil
  | cons column later ih =>
    unfold unshadowed
    split
    · exact ih
    · rename_i visible
      refine List.nodup_cons.mpr ⟨fun member => ?_, ih⟩
      obtain ⟨other, kept, same⟩ := List.mem_map.mp member
      exact visible ⟨other, (unshadowed_sublist later).subset kept, same⟩

theorem unshadowed_of_nodup {columns : List Column}
    (distinct : (columns.map fun column => lowercase column.name).Nodup) :
    unshadowed columns = columns := by
  induction columns with
  | nil => rfl
  | cons column later ih =>
    obtain ⟨fresh, distinct⟩ := List.nodup_cons.mp distinct
    unfold unshadowed
    rw [ih distinct, if_neg]
    rintro ⟨other, member, same⟩
    exact fresh (List.mem_map.mpr ⟨other, member, same⟩)

/-- The last column is never shadowed. -/
theorem unshadowed_eq_nil {columns : List Column} : unshadowed columns = [] ↔ columns = [] := by
  constructor
  · intro none
    induction columns with
    | nil => rfl
    | cons column later ih =>
      unfold unshadowed at none
      split at none
      · rename_i shadowed
        obtain ⟨other, member, -⟩ := shadowed
        rw [ih none] at member
        cases member
      · cases none
  · rintro rfl
    rfl

/-! ## Columns that a scope keeps -/

theorem keys_place (key : String) (column : Column) (entries : List (String × Column)) :
    (place key column entries).map (·.1) =
      if key ∈ entries.map (·.1) then entries.map (·.1) else entries.map (·.1) ++ [key] := by
  induction entries with
  | nil => rfl
  | cons entry entries ih =>
    unfold place
    by_cases taken : entry.1 = key
    · rw [if_pos taken, if_pos (taken ▸ List.mem_cons_self)]
      simp [taken]
    · have other : key ≠ entry.1 := fun same => taken same.symm
      rw [if_neg taken, List.map_cons, ih]
      by_cases known : key ∈ entries.map (·.1) <;> simp [known, other]

theorem nodup_keys_insert {scope : Scope} (distinct : scope.keys.Nodup) (column : Column) :
    (scope.insert column).2.keys.Nodup := by
  show (List.map (·.1) (place _ column scope.entries)).Nodup
  rw [keys_place]
  split
  · exact distinct
  · rename_i fresh
    exact List.nodup_append.mpr ⟨distinct, List.nodup_singleton _, fun key member key' member' same =>
      fresh (List.mem_singleton.mp member' ▸ same ▸ member)⟩

theorem nodup_keys_ofColumns (columns : List Column) : (ofColumns columns).keys.Nodup := by
  suffices general : ∀ scope : Scope, scope.keys.Nodup →
      (columns.foldl (fun scope column => (scope.insert column).2) scope).keys.Nodup from
    general empty List.nodup_nil
  induction columns with
  | nil => exact fun scope distinct => distinct
  | cons column columns ih => exact fun scope distinct => ih _ (nodup_keys_insert distinct column)

/-- The keys are the names of the columns in lower case. -/
theorem Keyed.keys_eq {scope : Scope} (keyed : scope.Keyed) :
    scope.keys = (scope.entries.map (·.2)).map fun column => lowercase column.name := by
  rw [keys, List.map_map, List.map_inj_left]
  exact keyed

/-- Under distinct keys an entry is what its key finds. -/
theorem mem_entries_iff {scope : Scope} (keyed : scope.Keyed) (distinct : scope.keys.Nodup)
    {column : Column} :
    column ∈ scope.entries.map (·.2) ↔ scope.find? column.name = some column := by
  constructor
  · intro member
    obtain ⟨entry, kept, rfl⟩ := List.mem_map.mp member
    have found := (lookup_eq_some_iff_mem distinct).mpr kept
    rw [keyed entry kept] at found
    exact found
  · intro found
    obtain ⟨key, member⟩ := mem_columns.mp (mem_columns_of_find? found)
    exact List.mem_map_of_mem member

/-- The scope of columns keeps exactly those that no later one shadows. -/
theorem perm_ofColumns (columns : List Column) :
    ((ofColumns columns).entries.map (·.2)).Perm (unshadowed columns) := by
  have keyed := keyed_ofColumns columns
  have distinct := nodup_keys_ofColumns columns
  rw [List.perm_ext_iff_of_nodup]
  · intro column
    rw [mem_entries_iff keyed distinct, find?_ofColumns, mem_unshadowed_iff_lastNamed?]
  · exact .of_map _ (keyed.keys_eq ▸ distinct)
  · exact .of_map _ (nodup_unshadowed_names columns)

theorem size_ofColumns (columns : List Column) :
    (ofColumns columns).size = (unshadowed columns).length := by
  rw [← (perm_ofColumns columns).length_eq, List.length_map]
  rfl

theorem isEmpty_ofColumns (columns : List Column) :
    (ofColumns columns).isEmpty = true ↔ columns = [] := by
  have same := (perm_ofColumns columns).length_eq
  rw [List.length_map] at same
  rw [isEmpty, List.isEmpty_iff, ← unshadowed_eq_nil, ← List.length_eq_zero_iff, same, List.length_eq_zero_iff]

section

variable {columns : List Column} (increasing : columns.Pairwise fun a b => a.index < b.index)
include increasing

/-- However its entries are enumerated, by position a scope lists the columns that are not shadowed. -/
theorem byPosition_ofColumns {enumeration : List (String × Column)}
    (any : enumeration.Perm (ofColumns columns).entries) :
    byPosition enumeration = unshadowed columns :=
  mergeSort_eq ((any.map (·.2)).trans (perm_ofColumns columns))
    (increasing.sublist (unshadowed_sublist columns))

theorem columnsInOrder_ofColumns : (ofColumns columns).columnsInOrder = unshadowed columns := by
  refine mergeSort_eq ?_ (increasing.sublist (unshadowed_sublist columns))
  exact (List.mergeSort_perm _ _).trans (perm_ofColumns columns)

end

end VideoPlan.Scope
