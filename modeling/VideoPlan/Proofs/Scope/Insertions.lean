import Mathlib.Data.List.Dedup
import VideoPlan.Proofs.Scope.Order

/-!
# Scopes and the columns put into them

A scope may be made anew of columns or take in one more column, any number of times. It is then the scope of the
columns that were put in since it was made anew last (`afterAll_eq`), and it answers by these columns: a name finds
the last of them that has it, and those that no later one shadows are listed by position, in whatever order they are
enumerated.

Main statement: `answers_by_insertions`.
-/

namespace VideoPlan.Scope

open Text

/-! ## Changes -/

/-- What changes a scope. -/
inductive Change
  /-- The scope is made anew of columns. -/
  | renew (columns : List Column)
  | insert (column : Column)

namespace Change

/-- The scope after a change. -/
def apply (scope : Scope) : Change → Scope
  | .renew columns => .ofColumns columns
  | .insert column => (scope.insert column).2

/-- The columns put in since the scope was made anew, those that it was made of included. -/
def record (columns : List Column) : Change → List Column
  | .renew columns => columns
  | .insert column => columns ++ [column]

end Change

/-- The scope after changes, the first one at the head. -/
def afterAll (changes : List Change) : Scope :=
  changes.foldl Change.apply empty

/-- The columns that were put in since the scope was made anew last, in their order. -/
def inserted (changes : List Change) : List Column :=
  changes.foldl Change.record []

theorem ofColumns_concat (columns : List Column) (column : Column) :
    ofColumns (columns ++ [column]) = ((ofColumns columns).insert column).2 := by
  rw [ofColumns, List.foldl_append]
  rfl

/-- One change more is recorded. -/
theorem apply_ofColumns (columns : List Column) (change : Change) :
    change.apply (ofColumns columns) = ofColumns (change.record columns) := by
  cases change with
  | renew columns => rfl
  | insert column => exact (ofColumns_concat columns column).symm

/-- Whatever the changes, the scope is that of the recorded columns. -/
theorem afterAll_eq (changes : List Change) : afterAll changes = ofColumns (inserted changes) := by
  suffices general : ∀ columns, changes.foldl Change.apply (ofColumns columns) =
      ofColumns (changes.foldl Change.record columns) from general []
  induction changes with
  | nil => exact fun columns => rfl
  | cons change changes ih =>
    intro columns
    rw [List.foldl_cons, List.foldl_cons, apply_ofColumns]
    exact ih _

/-! ## Columns by position -/

/-- Columns with different positions are sorted in one way only, in whatever order they come. -/
theorem mergeSort_congr {columns enumerated : List Column} (same : enumerated.Perm columns)
    (distinct : (columns.map (·.index)).Nodup) :
    (enumerated.mergeSort fun a b => a.index ≤ b.index) = columns.mergeSort fun a b => a.index ≤ b.index := by
  have perm := List.mergeSort_perm columns fun a b => decide (a.index ≤ b.index)
  have different := List.pairwise_map.mp ((perm.map (·.index)).nodup_iff.mpr distinct)
  refine mergeSort_eq (same.trans perm.symm) (((sorted_by_index columns).and different).imp ?_)
  exact fun both => Nat.lt_of_le_of_ne both.1 both.2

theorem perm_byPosition {enumeration : List (String × Column)} {columns : List Column}
    (any : enumeration.Perm (ofColumns columns).entries) :
    (byPosition enumeration).Perm (unshadowed columns) :=
  (List.mergeSort_perm _ _).trans ((any.map (·.2)).trans (perm_ofColumns columns))

theorem perm_columns (columns : List Column) : (ofColumns columns).columns.Perm (unshadowed columns) :=
  (List.mergeSort_perm _ _).trans (perm_ofColumns columns)

/-- In whatever order the entries are enumerated, columns with different positions are listed in the same order. -/
theorem byPosition_eq_columnsInOrder {enumeration : List (String × Column)} {columns : List Column}
    (any : enumeration.Perm (ofColumns columns).entries) (distinct : ((unshadowed columns).map (·.index)).Nodup) :
    byPosition enumeration = (ofColumns columns).columnsInOrder := by
  have enumerated := (any.map (·.2)).trans (perm_ofColumns columns)
  exact (mergeSort_congr enumerated distinct).trans (mergeSort_congr (perm_columns columns) distinct).symm

/-! ## Names -/

/-- The columns that are not shadowed have each of the names once. -/
theorem names_unshadowed (columns : List Column) :
    (unshadowed columns).map (fun column => lowercase column.name) =
      (columns.map fun column => lowercase column.name).dedup := by
  induction columns with
  | nil => rfl
  | cons column columns ih =>
    unfold unshadowed
    split
    · rename_i shadowed
      rw [ih, List.map_cons, List.dedup_cons_of_mem (List.mem_map.mpr shadowed)]
    · rename_i visible
      rw [List.map_cons, ih, List.map_cons, List.dedup_cons_of_notMem fun member => visible (List.mem_map.mp member)]

theorem lastNamed?_eq_some_iff {columns : List Column} {name : String} {column : Column} :
    lastNamed? columns name = some column ↔ ∃ earlier later, columns = earlier ++ column :: later ∧
      lowercase column.name = lowercase name ∧ ∀ other ∈ later, lowercase other.name ≠ lowercase name := by
  constructor
  · intro found
    have same := lowercase_name_of_lastNamed? found
    rw [lastNamed?_congr columns same.symm] at found
    obtain ⟨earlier, later, split, last⟩ := mem_unshadowed.mp (mem_unshadowed_iff_lastNamed?.mpr found)
    exact ⟨earlier, later, split, same, fun other member => same ▸ last other member⟩
  · rintro ⟨earlier, later, split, same, last⟩
    rw [lastNamed?_congr columns same.symm]
    exact mem_unshadowed_iff_lastNamed?.mp (mem_unshadowed.mpr ⟨earlier, later, split, fun other member =>
      same ▸ last other member⟩)

/-! ## Main statement -/

/-- After any changes a scope answers by the columns that were put in since it was made anew last. A name finds the
last of them that has it but for case, is resolved to it or reported as it was written, and putting in one more column
answers the one that it shadows. There are as many columns as different names, namely those that no later one shadows,
each once. They are listed by position, and where all their positions differ the list is the same in whatever order
the entries are enumerated. -/
theorem answers_by_insertions (changes : List Change) :
    let scope := afterAll changes
    let columns := inserted changes
    let surviving := unshadowed columns
    (∀ name column, lastNamed? columns name = some column ↔ ∃ earlier later, columns = earlier ++ column :: later ∧
      lowercase column.name = lowercase name ∧ ∀ other ∈ later, lowercase other.name ≠ lowercase name) ∧
    (∀ name, scope.find? name = lastNamed? columns name ∧
      scope.resolve name = (lastNamed? columns name).elim (.error (.columnNotFound name)) .ok ∧
      scope.contains name = (lastNamed? columns name).isSome) ∧
    (∀ column, (scope.insert column).1 = lastNamed? columns column.name) ∧
    scope.size = (columns.map fun column => lowercase column.name).dedup.length ∧
    (∀ column, column ∈ surviving ↔ lastNamed? columns column.name = some column) ∧ surviving.Nodup ∧
    scope.columnsInOrder.Perm surviving ∧ (scope.columnsInOrder.Pairwise fun a b => a.index ≤ b.index) ∧
    ∀ enumeration, enumeration.Perm scope.entries →
      (byPosition enumeration).Perm surviving ∧ ((byPosition enumeration).Pairwise fun a b => a.index ≤ b.index) ∧
        ((surviving.map (·.index)).Nodup → byPosition enumeration = scope.columnsInOrder) := by
  dsimp only
  rw [afterAll_eq]
  generalize inserted changes = columns
  have listed : (ofColumns columns).columnsInOrder.Perm (unshadowed columns) :=
    (List.mergeSort_perm _ _).trans (perm_columns columns)
  refine ⟨fun _ _ => lastNamed?_eq_some_iff, fun name => ?_, fun column => find?_ofColumns columns column.name, ?_,
    fun _ => mem_unshadowed_iff_lastNamed?, .of_map _ (nodup_unshadowed_names columns), listed, sorted_by_index _,
    fun enumeration any => ⟨perm_byPosition any, sorted_by_index _, byPosition_eq_columnsInOrder any⟩⟩
  · have found := find?_ofColumns columns name
    refine ⟨found, ?_, congrArg Option.isSome found⟩
    rw [resolve, found]
    cases lastNamed? columns name <;> rfl
  · rw [size_ofColumns, ← names_unshadowed, List.length_map]

end VideoPlan.Scope
