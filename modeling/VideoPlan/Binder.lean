import VideoPlan.Binding
import VideoPlan.Catalog.Definition
import VideoPlan.Catalog.Interface
import VideoPlan.Statement

/-!
# Binders

What turning statements into plans asks about the parts of a statement. A binder is any seven answers to
these questions over a state of its own; `Binder.ofCatalog` answers them from a catalog.
-/

namespace VideoPlan

/-- The questions that the parts of a statement raise, over a state `σ`. -/
structure Binder (σ : Type) where
  /-- The dataset of a table, if there is one. -/
  dataset? : TableRef → Action σ (Option Dataset)
  /-- The predicate of a WHERE clause in a scope. -/
  predicate : Sql.Expr → Scope → Action σ Expr
  /-- The expressions of a SELECT list in a scope. -/
  projection : List Sql.SelectItem → Scope → Action σ (List Expr)
  /-- Rows of constants. -/
  rows : List (List Sql.Expr) → Action σ (List (List Expr))
  /-- The inputs (if the flag is set) or outputs of a function. -/
  parameters : List ColumnDefinition → Bool → Action σ (List UdfParameter)
  /-- The columns of a new table. -/
  columns : List ColumnDefinition → Action σ (List Column)
  /-- A new video of this name. -/
  createVideo : String → Action σ Dataset

namespace Binder

/-- A failure to create a dataset stays as it is, any other failure becomes its reason. -/
def creationError : Error → Error
  | .creation fault => .creation fault
  | error => .creation (.failed error.message)

/-- Finds or creates the video of a name in a catalog. -/
def createVideoIn (catalog : CatalogInterface σ) (name : String) : Action σ Dataset :=
  ExceptT.adapt creationError (catalog.findOrCreate (.video name))

/-- The answers of a catalog. Only the name of a table is looked up, not what it lies in. -/
def ofCatalog (catalog : CatalogInterface σ) : Binder σ where
  dataset? table := return catalog.find? (← get) table.table
  predicate expr scope := Action.ofExcept (Expr.ofPredicate scope expr)
  projection items scope := Action.ofExcept (Expr.ofItems (some scope) items)
  rows rows := Action.ofExcept (Expr.ofRows rows)
  parameters definitions isInput := Action.ofExcept (ColumnDefinition.toParameters isInput definitions)
  columns definitions := Action.ofExcept (ColumnDefinition.toColumns definitions)
  createVideo := createVideoIn catalog

end Binder

end VideoPlan
