import VideoPlan.Catalog.Store
import VideoPlan.Proofs.Conversion.Planning
import VideoPlan.Proofs.Plan.Columns

/-!
# What the operators of a query can refer to

The rows of a dataset have its columns, and the rows of a projection have the columns among its targets. A
plan is evaluable if each operator refers to nothing but columns of the rows from below.

The predicate of a query is bound in the scope of the table but stands on top of the projection, so it may
refer to a column of the table that the projection does not pass on, and then the plan is not evaluable
(`predicate_behind_projection`). This is the only way: all columns of the plan are columns of the table at
its bottom, and the plan is evaluable if nothing but the predicate has to be looked at, or if the query
selects all columns (`select_refers_to_table`).
-/

namespace VideoPlan

variable {σ : Type}

/-! ## Columns of rows -/

/-- The column that a target passes on, under its own name or another one. -/
def Expr.passed? : Expr → Option Column
  | .column entry => some entry
  | .aliased (.column entry) _ => some entry
  | _ => none

/-- The columns of the rows of an operator over rows with the columns `below`. -/
def Operator.offered (below : List Column) : Operator → List Column
  | .get _ dataset => dataset.columns
  | .filter _ => below
  | .project targets => targets.filterMap Expr.passed?
  | _ => []

namespace Plan

mutual

/-- The columns of the rows of the plan. -/
def offered : Plan → List Column
  | .node operator children => operator.offered (offeredByAll children)

/-- The columns of the rows of the plans. -/
def offeredByAll : List Plan → List Column
  | [] => []
  | plan :: plans => plan.offered ++ offeredByAll plans

end

mutual

/-- Whether each operator of the plan refers to columns of the rows from below only. -/
def evaluable : Plan → Bool
  | .node operator children =>
    operator.columns.all (fun column => (offeredByAll children).contains column) &&
      allEvaluable children

/-- Whether all of the plans are evaluable. -/
def allEvaluable : List Plan → Bool
  | [] => true
  | plan :: plans => plan.evaluable && allEvaluable plans

end

theorem evaluable_leaf {operator : Operator} (noColumns : operator.columns = []) :
    (leaf operator).evaluable = true := by
  unfold leaf
  rw [evaluable, noColumns]
  rfl

/-- An operator over one plan needs its columns from this plan. -/
theorem evaluable_node_singleton (operator : Operator) (below : Plan) :
    (node operator [below]).evaluable = true ↔
      (∀ column ∈ operator.columns, column ∈ below.offered) ∧ below.evaluable = true := by
  rw [evaluable, offeredByAll, offeredByAll, allEvaluable, allEvaluable]
  simp

end Plan

/-! ## Targets and predicates -/

/-- A wildcard passes on every column of the scope. -/
theorem Expr.column_mem_ofItems {scope : Scope} {items : List Sql.SelectItem} {targets : List Expr}
    (bound : ofItems (some scope) items = .ok targets) {options : String}
    (wildcard : .wildcard options ∈ items) :
    ∀ column ∈ scope.columns, .column column ∈ targets := by
  induction items generalizing targets with
  | nil => cases wildcard
  | cons item items ih =>
    simp only [ofItems, bind_eq_ok, pure_eq_ok] at bound
    obtain ⟨first, hfirst, rest, hrest, rfl⟩ := bound
    intro column member
    rcases List.mem_cons.mp wildcard with rfl | wildcard
    · refine List.mem_append_left rest ?_
      simp only [ofItem] at hfirst
      split at hfirst
      · rename_i known hknown
        cases (Option.filter_eq_some_iff.mp hknown).1
        cases hfirst
        exact List.mem_map_of_mem (Scope.mem_columnsInOrder.mpr member)
      · cases hfirst
    · exact List.mem_append_right first (ih hrest wildcard column member)

namespace SelectStatement

theorem targets?_eq_some {scope : Scope} {items : List Sql.SelectItem} {targets : List Expr}
    (bound : targets? scope items = .ok (some targets)) :
    Expr.ofItems (some scope) items = .ok targets := by
  cases items with
  | nil => cases bound
  | cons item items =>
    obtain ⟨targets', hbound, same⟩ := map_eq_ok.mp bound
    cases same
    exact hbound

theorem predicate?_eq_some {scope : Scope} {filter : Option Sql.Expr} {predicate : Expr}
    (bound : predicate? scope filter = .ok (some predicate)) :
    ∃ sql, filter = some sql ∧ Expr.ofPredicate scope sql = .ok predicate := by
  cases filter with
  | none => cases bound
  | some sql =>
    obtain ⟨predicate', hbound, same⟩ := map_eq_ok.mp bound
    cases same
    exact ⟨sql, rfl, hbound⟩

/-- Targets refer to columns of the scope that they are bound in. -/
theorem columns_targets? {scope : Scope} {items : List Sql.SelectItem} {targets : List Expr}
    (bound : targets? scope items = .ok (some targets)) :
    ∀ column ∈ Expr.columnsOfAll targets, column ∈ scope.columns :=
  (Expr.columns_ofItems (targets?_eq_some bound)).mem_columns

/-- A predicate refers to columns of the scope that it is bound in. -/
theorem columns_predicate? {scope : Scope} {filter : Option Sql.Expr} {predicate : Expr}
    (bound : predicate? scope filter = .ok (some predicate)) :
    ∀ column ∈ predicate.columns, column ∈ scope.columns := by
  obtain ⟨sql, -, bound⟩ := predicate?_eq_some bound
  exact (Expr.columns_ofSql _ _ _ (Expr.ofSql_of_ofPredicate bound)).mem_columns

end SelectStatement

/-! ## Plans of queries -/

namespace Plan

/-- A chain refers to the columns that its operators refer to. -/
theorem columns_ofChain {operators : List Operator} {plan : Plan}
    (shape : ofChain operators = some plan) :
    plan.columns = operators.flatMap Operator.columns := by
  induction operators generalizing plan with
  | nil => cases shape
  | cons operator operators ih =>
    cases shape
    rw [columns, List.flatMap_cons]
    cases below : ofChain operators with
    | none =>
      cases operators with
      | nil => rfl
      | cons first operators => cases below
    | some child =>
      rw [← ih below]
      exact congrArg (operator.columns ++ ·) (List.append_nil child.columns)

variable {table : TableRef} {dataset : Dataset} {targets : Option (List Expr)}
  {predicate : Option Expr} {plan : Plan}

/-- A query over a table has a plan. -/
theorem exists_ofQuery (table : TableRef) (dataset : Dataset) (targets : Option (List Expr))
    (predicate : Option Expr) :
    ∃ plan, ofChain (Operator.ofQuery (some (table, dataset)) targets predicate) = some plan := by
  cases predicate <;> cases targets <;> exact ⟨_, rfl⟩

/-- A query over a table refers to the columns of its predicate and of its targets. -/
theorem columns_ofQuery
    (shape : ofChain (Operator.ofQuery (some (table, dataset)) targets predicate) = some plan) :
    plan.columns =
      (predicate.map Expr.columns).getD [] ++ (targets.map Expr.columnsOfAll).getD [] := by
  rw [columns_ofChain shape]
  cases predicate <;> cases targets <;> simp [Operator.ofQuery, Operator.columns]

/-- A query over a table needs nothing but that its predicate, if it stands on targets, refers to columns
that these pass on. -/
theorem evaluable_ofQuery
    (shape : ofChain (Operator.ofQuery (some (table, dataset)) targets predicate) = some plan)
    (known : ∀ column ∈ plan.columns, column ∈ dataset.columns) :
    plan.evaluable = true ↔
      ∀ expr ∈ predicate, ∀ exprs ∈ targets, ∀ column ∈ expr.columns,
        column ∈ exprs.filterMap Expr.passed? := by
  have get : (leaf (.get table dataset)).evaluable = true := evaluable_leaf rfl
  have overGet : ∀ operator : Operator, (∀ column ∈ operator.columns, column ∈ dataset.columns) →
      (node operator [leaf (.get table dataset)]).evaluable = true :=
    fun operator known => (evaluable_node_singleton operator _).mpr ⟨known, get⟩
  rw [columns_ofQuery shape] at known
  cases predicate with
  | none =>
    have evaluable : plan.evaluable = true := by
      cases targets with
      | none => cases shape; exact get
      | some exprs => cases shape; exact overGet (.project exprs) known
    exact iff_of_true evaluable fun expr none => nomatch none
  | some expr =>
    cases targets with
    | none =>
      cases shape
      have evaluable := overGet (.filter expr) fun column member =>
        known column (List.mem_append_left _ member)
      exact iff_of_true evaluable fun _ _ exprs none => nomatch none
    | some exprs =>
      cases shape
      -- the targets are bound over the table, so only the filter on top is in question
      have project := overGet (.project exprs) fun column member =>
        known column (List.mem_append_right _ member)
      refine (evaluable_node_singleton (.filter expr) _).trans ⟨fun evaluable => ?_, fun passed => ?_⟩
      · intro expr' same exprs' same'
        cases same
        cases same'
        exact evaluable.1
      · exact ⟨passed expr rfl exprs rfl, project⟩

end Plan

/-! ## Main statement -/

/-- Over any catalog, a query of a table that a new conversion succeeds with has a plan, a chain over that
table: a filter if it has a predicate, on a projection if it has targets. The targets are what its items are
bound to in the scope of the dataset of the table, and the predicate is what its WHERE is bound to in the same
scope. All columns that the plan refers to are columns of the dataset. The plan is evaluable exactly if the
predicate refers to no other columns than those that the targets pass on, where there are both; and it is
evaluable whenever one of the targets is a wildcard. -/
theorem select_refers_to_table (catalog : CatalogInterface σ) (state : σ)
    {statement : SelectStatement} {table : TableRef} {result : Option Plan}
    (reads : statement.table = some table)
    (planned : (Converting.outcome (Converting.visit (.ofCatalog catalog) (.select statement))
      { state }).1 = .ok result) :
    ∃ plan dataset targets predicate, result = some plan ∧
      catalog.find? state table.table = some dataset ∧
      SelectStatement.targets? (.ofDataset dataset) statement.items = .ok targets ∧
      SelectStatement.predicate? (.ofDataset dataset) statement.filter = .ok predicate ∧
      Plan.ofChain (Operator.ofQuery (some (table, dataset)) targets predicate) = some plan ∧
      (∀ column ∈ plan.columns, column ∈ dataset.columns) ∧
      (plan.evaluable = true ↔
        ∀ expr ∈ predicate, ∀ exprs ∈ targets, ∀ column ∈ expr.columns,
          column ∈ exprs.filterMap Expr.passed?) ∧
      (∀ options, .wildcard options ∈ statement.items → plan.evaluable = true) := by
  rw [Converting.outcome_visit] at planned
  unfold Dialogue.ofStatement at planned
  rw [Converting.told_ofSelect_some catalog state reads] at planned
  cases found : catalog.find? state table.table with
  | none => rw [found] at planned; cases planned
  | some dataset =>
    rw [found] at planned
    simp only [SelectStatement.planOver, bind_eq_ok, pure_eq_ok] at planned
    obtain ⟨targets, htargets, predicate, hpredicate, rfl⟩ := planned
    obtain ⟨plan, shape⟩ := Plan.exists_ofQuery table dataset targets predicate
    have known : ∀ column ∈ plan.columns, column ∈ dataset.columns := by
      intro column member
      refine Scope.mem_columns_ofDataset ?_
      rw [Plan.columns_ofQuery shape] at member
      rcases List.mem_append.mp member with member | member
      · cases predicate with
        | none => cases member
        | some expr => exact SelectStatement.columns_predicate? hpredicate column member
      · cases targets with
        | none => cases member
        | some exprs => exact SelectStatement.columns_targets? htargets column member
    have evaluable := Plan.evaluable_ofQuery shape known
    refine ⟨plan, dataset, targets, predicate, shape, rfl, htargets, hpredicate, shape, known, evaluable, ?_⟩
    intro options wildcard
    rw [evaluable]
    intro expr some exprs some' column member
    cases some
    cases some'
    have bound := SelectStatement.targets?_eq_some htargets
    have passed := Expr.column_mem_ofItems bound wildcard column
      (SelectStatement.columns_predicate? hpredicate column member)
    exact List.mem_filterMap.mpr ⟨.column column, passed, rfl⟩

/-! ## Queries of a small catalog -/

/-- A catalog of one table with two columns. -/
def Catalog.labelled : Catalog :=
  Catalog.empty.add (.named "MyVideo"
    [{ name := "id", type := { base := .integer } }, { name := "label", type := { base := .text } }])

/-- The query for these items of the rows with one label. -/
def SelectStatement.labelledCar (items : List Sql.SelectItem) : SelectStatement where
  table := some { table := "MyVideo" }
  items
  filter := some (.binary .eq (.ident { value := "label" }) (.constant (.string .plain "car")))

theorem select_refers_to_table_wildcard :
    ∃ plan, (Converting.outcome (Converting.visit (.ofCatalog Catalog.interface)
        (.select (.labelledCar [.wildcard ""]))) { state := .labelled }).1 = .ok (some plan) ∧
      plan.evaluable = true := by
  obtain ⟨plan, dataset, targets, predicate, same, -, -, -, -, -, -, evaluable⟩ :=
    select_refers_to_table Catalog.interface Catalog.labelled
      (rfl : (SelectStatement.labelledCar [.wildcard ""]).table = some { table := "MyVideo" }) rfl
  exact ⟨plan, congrArg Except.ok same, evaluable "" List.mem_cons_self⟩

/-- The label is looked at on top of a projection that passes on nothing but the number. -/
theorem predicate_behind_projection :
    ¬ ∀ (catalog : Catalog) (statement : SelectStatement) (plan : Plan),
      statement.table.isSome = true →
      (Converting.outcome (Converting.visit (.ofCatalog Catalog.interface) (.select statement))
        { state := catalog }).1 = .ok (some plan) →
      plan.evaluable = true := by
  intro all
  have evaluable := all .labelled (.labelledCar [.plain (.ident { value := "id" })]) _ rfl rfl
  exact absurd evaluable (by decide +kernel)

end VideoPlan
