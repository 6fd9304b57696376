import VideoPlan.Catalog.Dataset
import VideoPlan.Error
import VideoPlan.Text.Casing

/-!
# Scopes

A scope holds the columns that a statement may name, each under its name in lower case. Of two columns
with the same name but for case the later one stays.
-/

namespace VideoPlan

open Text

/-- The columns that may be named. -/
structure Scope where
  /-- The columns under their names in lower case, in the order in which the names came. -/
  entries : List (String × Column) := []
deriving DecidableEq

namespace Scope

/-- The scope without columns. -/
def empty : Scope := {}

/-- The number of columns. -/
def size (scope : Scope) : Nat :=
  scope.entries.length

/-- Whether the scope has no columns. -/
def isEmpty (scope : Scope) : Bool :=
  scope.entries.isEmpty

/-- The names in lower case. -/
def keys (scope : Scope) : List String :=
  scope.entries.map (·.1)

/-- The column of a name, in any case. -/
def find? (scope : Scope) (name : String) : Option Column :=
  scope.entries.lookup (lowercase name)

/-- Whether a column has this name, in any case. -/
def contains (scope : Scope) (name : String) : Bool :=
  (scope.find? name).isSome

/-- The column of a name, in any case; it must be there. -/
def resolve (scope : Scope) (name : String) : Except Error Column :=
  match scope.find? name with
  | some column => .ok column
  | none => .error (.columnNotFound name)

/-- The entries with a column under `key`, in place of the one that is there. -/
def place (key : String) (column : Column) : List (String × Column) → List (String × Column)
  | [] => [(key, column)]
  | entry :: entries =>
    if entry.1 = key then (key, column) :: entries else entry :: place key column entries

/-- The scope with another column, and the column that it replaces. -/
def insert (scope : Scope) (column : Column) : Option Column × Scope :=
  (scope.find? column.name, ⟨place (lowercase column.name) column scope.entries⟩)

/-- The scope of these columns. -/
def ofColumns (columns : List Column) : Scope :=
  columns.foldl (fun scope column => (scope.insert column).2) empty

/-- The scope of the columns of a dataset. -/
def ofDataset (dataset : Dataset) : Scope :=
  ofColumns dataset.columns

/-- The columns in one of the orders in which a map may give its entries out: by name. -/
def columns (scope : Scope) : List Column :=
  (scope.entries.map (·.2)).mergeSort fun a b => a.name ≤ b.name

/-- The columns by their positions in the dataset. Those with the same position stay in the order in which the entries
were given out, which is by name here and may be any. -/
def columnsInOrder (scope : Scope) : List Column :=
  scope.columns.mergeSort fun a b => a.index ≤ b.index

end Scope

end VideoPlan
