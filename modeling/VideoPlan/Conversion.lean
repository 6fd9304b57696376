import VideoPlan.Binder
import VideoPlan.Plan

/-!
# From statements to plans

A conversion keeps the plan built so far and the scope of the table that it reads. Each part of a query
puts an operator on top of the plan: the table first, then the projection, then the filter. The other
statements replace the plan. A part that fails leaves the plan as it was; an insertion changes the scope
as soon as its table is known.
-/

namespace VideoPlan

/-- A plan in the making. -/
structure Conversion where
  plan : Option Plan := none
  scope : Scope := .empty

/-- The conversion before the first statement. -/
def Conversion.start : Conversion := {}

/-- A conversion beside the state of the binder. -/
structure Converting (σ : Type) where
  conversion : Conversion := .start
  state : σ

namespace Converting

/-- Asks the binder, whose state may change. -/
def ask (action : Action σ α) : Action (Converting σ) α :=
  ExceptT.mk fun converting =>
    let (answer, state) := action.answer converting.state
    (answer, { converting with state })

/-- The scope of the conversion. -/
def scope : Action (Converting σ) Scope :=
  return (← get).conversion.scope

/-- Makes these the columns that may be named. -/
def setScope (scope : Scope) : Action (Converting σ) Unit :=
  modify fun converting => { converting with conversion.scope := scope }

/-- Replaces the plan by one operator. -/
def setRoot (operator : Operator) : Action (Converting σ) Unit :=
  modify fun converting => { converting with conversion.plan := some (.leaf operator) }

/-- Puts an operator on top of the plan. -/
def pushRoot (operator : Operator) : Action (Converting σ) Unit :=
  modify fun converting =>
    { converting with conversion.plan := some (.node operator converting.conversion.plan.toList) }

/-- The dataset of a table, which must be there. -/
def dataset (binder : Binder σ) (table : TableRef) : Action (Converting σ) Dataset := do
  match ← ask (binder.dataset? table) with
  | some dataset => return dataset
  | none => throw (.tableNotFound table.table)

/-! ## Queries -/

/-- Starts a plan that reads a table. -/
def visitTable (binder : Binder σ) (table : TableRef) : Action (Converting σ) Unit := do
  let dataset ← dataset binder table
  setRoot (.get table dataset)
  setScope (.ofDataset dataset)

/-- Puts a projection on top of the plan. -/
def visitProjection (binder : Binder σ) (items : List Sql.SelectItem) :
    Action (Converting σ) Unit := do
  let targets ← ask (binder.projection items (← scope))
  pushRoot (.project targets)

/-- Puts a filter on top of the plan. -/
def visitPredicate (binder : Binder σ) (predicate : Sql.Expr) : Action (Converting σ) Unit := do
  let predicate ← ask (binder.predicate predicate (← scope))
  pushRoot (.filter predicate)

/-- Plans a query. -/
def visitSelect (binder : Binder σ) (statement : SelectStatement) : Action (Converting σ) Unit := do
  if let some table := statement.table then visitTable binder table
  if !statement.items.isEmpty then visitProjection binder statement.items
  if let some predicate := statement.filter then visitPredicate binder predicate

/-! ## Other statements -/

/-- Plans the creation of a function. -/
def visitCreateUdf (binder : Binder σ) (declaration : UdfDeclaration) :
    Action (Converting σ) Unit := do
  let inputs ← ask (binder.parameters declaration.inputs true)
  let outputs ← ask (binder.parameters declaration.outputs false)
  setRoot (.createUdf
    { name := declaration.name, ifNotExists := declaration.ifNotExists, inputs, outputs,
      implementation := declaration.implementation, udfType := declaration.udfType })

/-- Plans the loading of a file. A table that is not there becomes a new video. -/
def visitLoadData (binder : Binder σ) (statement : LoadStatement) : Action (Converting σ) Unit := do
  match ← ask (binder.dataset? statement.table) with
  | some dataset => setRoot (.loadData dataset statement.path)
  | none =>
    let dataset ← ask (binder.createVideo statement.table.table)
    setRoot (.loadData dataset statement.path)

/-- The columns that an insertion names; all of them if it names none. -/
def targetColumns (dataset : Dataset) (scope : Scope) (names : List String) :
    Except Error (List Column) :=
  if names.isEmpty then .ok dataset.columns else names.mapM scope.resolve

/-- Fails at the first row, counting from `row`, that has not `columns` values. -/
def checkRows (columns row : Nat) : List (List Expr) → Except Error Unit
  | [] => .ok ()
  | values :: rows =>
    if values.length = columns then checkRows columns (row + 1) rows
    else .error (.bind (.rowLength row values.length columns))

/-- Plans an insertion. -/
def visitInsert (binder : Binder σ) (statement : InsertStatement) : Action (Converting σ) Unit := do
  let dataset ← dataset binder statement.table
  setScope (.ofDataset dataset)
  let columns ← Action.ofExcept (targetColumns dataset (.ofDataset dataset) statement.columns)
  let rows ← ask (binder.rows statement.rows)
  Action.ofExcept (checkRows columns.length 1 rows)
  setRoot (.insert statement.table dataset.id columns rows)

/-- Plans the creation of a table. -/
def visitCreateTable (binder : Binder σ) (declaration : TableDeclaration) :
    Action (Converting σ) Unit := do
  let columns ← ask (binder.columns declaration.columns)
  setRoot (.createTable declaration.table columns declaration.ifNotExists)

/-- Plans a statement. -/
def visit (binder : Binder σ) : Statement → Action (Converting σ) Unit
  | .select statement => visitSelect binder statement
  | .createUdf declaration => visitCreateUdf binder declaration
  | .insert statement => visitInsert binder statement
  | .createTable declaration => visitCreateTable binder declaration
  | .loadData statement => visitLoadData binder statement
  | .unsupported sql => throw (.unsupportedStatement sql)

end Converting

end VideoPlan
