import VideoPlan.Conversion

/-!
# Columns and rows of insertions

An insertion names its columns, and each of its rows must have a value for each of them. Both checks stop
at the first fault, and both are told here by that fault alone: the first name without a column, and the
first row of another length.
-/

namespace VideoPlan.Converting

/-- The first of the rows, with its number counted from `row`, that has not `columns` values. -/
def misfit? (columns row : Nat) (rows : List (List Expr)) : Option (List Expr × Nat) :=
  (rows.zipIdx row).find? fun numbered => numbered.1.length != columns

/-- Names resolve to their columns if all of them have one; else the first that has none is reported. -/
theorem mapM_resolve (scope : Scope) (names : List String) :
    names.mapM scope.resolve =
      match names.find? fun name => !scope.contains name with
      | some name => .error (.columnNotFound name)
      | none => .ok (names.filterMap scope.find?) := by
  induction names with
  | nil => rfl
  | cons name names ih =>
    rw [List.mapM_cons, ih, List.find?_cons, List.filterMap_cons]
    cases h : scope.find? name with
    | none =>
      have missing : scope.contains name = false := by simp [Scope.contains, h]
      simp [Scope.resolve, h, missing, bind, Except.bind]
    | some column =>
      have found : scope.contains name = true := by simp [Scope.contains, h]
      simp only [Scope.resolve, h, found, Bool.not_true]
      cases names.find? fun name => !scope.contains name <;> rfl

/-- The targets of an insertion: all columns, or those of the names, each of which must have one. -/
theorem targetColumns_eq (dataset : Dataset) (scope : Scope) (names : List String) :
    targetColumns dataset scope names =
      match names.find? fun name => !scope.contains name with
      | some name => .error (.columnNotFound name)
      | none => .ok (if names.isEmpty then dataset.columns else names.filterMap scope.find?) := by
  unfold targetColumns
  cases names with
  | nil => rfl
  | cons name names => exact mapM_resolve scope (name :: names)

/-- Rows pass unless one of them has another length; the first such row is reported. -/
theorem checkRows_eq (columns row : Nat) (rows : List (List Expr)) :
    checkRows columns row rows =
      match misfit? columns row rows with
      | some (values, row) => .error (.bind (.rowLength row values.length columns))
      | none => .ok () := by
  induction rows generalizing row with
  | nil => rfl
  | cons values rows ih =>
    unfold checkRows misfit?
    rw [List.zipIdx_cons, List.find?_cons]
    by_cases h : values.length = columns
    · simp only [h, if_true, bne_self_eq_false]
      exact ih (row + 1)
    · have differs : (values.length != columns) = true := by simp [h]
      rw [if_neg h, differs]

end VideoPlan.Converting
