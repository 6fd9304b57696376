import VideoPlan.Catalog.Store
import VideoPlan.Proofs.Conversion.Run
import VideoPlan.Proofs.Plan.Columns

/-!
# Plans stay within the table that they read

The plan and the scope of a conversion are changed apart from one another: a table replaces both, other
roots replace the plan only, and a projection or a filter is bound in the scope and put on top of the plan.
Still the scope is that of the table at the bottom of the plan, and the plan refers to no other columns.

Main statement: `reached_closed`. Only an insertion that fails behind its table breaks this, since it leaves
the scope of its own table beside the plan of another one.
-/

namespace VideoPlan

variable {σ : Type}

/-- If a table is at the bottom of the plan, then the scope is the scope of this table, and the plan refers
to its columns only. -/
def Conversion.Closed (conversion : Conversion) : Prop :=
  ∀ plan ∈ conversion.plan, ∀ table dataset, plan.bottom = .get table dataset →
    conversion.scope = .ofDataset dataset ∧ ∀ column ∈ plan.columns, column ∈ dataset.columns

/-- What the binder binds in a scope refers to the columns of this scope only. -/
structure Binder.Scoped (binder : Binder σ) : Prop where
  projection : ∀ items scope state targets,
    ((binder.projection items scope).answer state).1 = .ok targets →
      ∀ column ∈ Expr.columnsOfAll targets, column ∈ scope.columns
  predicate : ∀ predicate scope state expr,
    ((binder.predicate predicate scope).answer state).1 = .ok expr →
      ∀ column ∈ expr.columns, column ∈ scope.columns

/-- A binder over a catalog binds in the scope that it is given. -/
theorem Binder.scoped_ofCatalog (catalog : CatalogInterface σ) :
    (Binder.ofCatalog catalog).Scoped where
  projection items scope state targets bound := by
    have bound : Expr.ofItems (some scope) items = .ok targets := by
      simpa [Binder.ofCatalog] using bound
    exact (Expr.columns_ofItems bound).mem_columns
  predicate predicate scope state expr bound := by
    have bound : Expr.ofPredicate scope predicate = .ok expr := by
      simpa [Binder.ofCatalog] using bound
    exact (Expr.columns_ofSql _ _ _ (Expr.ofSql_of_ofPredicate bound)).mem_columns

namespace Conversion

/-! ## Conversions -/

theorem closed_start : start.Closed := by
  intro plan none
  cases none

/-- A table brings its own scope. -/
theorem closed_get (table : TableRef) (dataset : Dataset) :
    Closed { plan := some (.leaf (.get table dataset)), scope := .ofDataset dataset } := by
  intro plan some table' dataset' bottom
  cases some
  cases bottom
  refine ⟨rfl, ?_⟩
  rw [Plan.columns_leaf]
  intro column member
  cases member

/-- Whatever is not a table says nothing of scopes. -/
theorem closed_root {operator : Operator} (noTable : operator.kind ≠ .get)
    (conversion : Conversion) : (conversion.root operator).Closed := by
  intro plan some table dataset bottom
  cases some
  have same : operator = .get table dataset := bottom
  rw [same] at noTable
  exact absurd rfl noTable

/-- What is put on top of the plan refers to columns of the scope, so to columns of the table below. -/
theorem Closed.push {conversion : Conversion} (closed : conversion.Closed) {operator : Operator}
    (noTable : operator.kind ≠ .get)
    (inScope : ∀ column ∈ operator.columns, column ∈ conversion.scope.columns) :
    (conversion.push operator).Closed := by
  obtain ⟨plan, scope⟩ := conversion
  cases plan with
  -- on top of nothing the operator is the bottom itself, and it is no table
  | none => exact closed_root noTable { scope }
  | some below =>
    intro plan some table dataset bottom
    cases some
    obtain ⟨sameScope, closedBelow⟩ := closed below rfl table dataset bottom
    refine ⟨sameScope, ?_⟩
    show ∀ column ∈ (Plan.node operator [below]).columns, column ∈ dataset.columns
    rw [Plan.columns_node_singleton]
    intro column member
    rcases List.mem_append.mp member with member | member
    · have known : column ∈ scope.columns := inScope column member
      have sameScope : scope = .ofDataset dataset := sameScope
      rw [sameScope] at known
      exact Scope.mem_columns_ofDataset known
    · exact closedBelow column member

end Conversion

namespace Converting

/-! ## Visits -/

variable {binder : Binder σ}

/-- The conversion is closed. -/
def Closed (converting : Converting σ) : Prop :=
  converting.conversion.Closed

theorem keeps_closed_visitTable (table : TableRef) :
    Action.Keeps Closed (visitTable binder table) := by
  intro converting closed
  rw [answer_visitTable]
  rcases (binder.dataset? table).answer converting.state with ⟨_ | _ | dataset, state⟩
  · exact closed
  · exact closed
  · exact Conversion.closed_get table dataset

theorem keeps_closed_visitProjection (inScope : binder.Scoped) (items : List Sql.SelectItem) :
    Action.Keeps Closed (visitProjection binder items) := by
  intro converting closed
  rw [answer_visitProjection]
  rcases bound : (binder.projection items converting.conversion.scope).answer converting.state
    with ⟨_ | targets, state⟩
  · exact closed
  · refine Conversion.Closed.push closed (by simp [Operator.kind]) ?_
    exact inScope.projection items _ converting.state targets (congrArg Prod.fst bound)

theorem keeps_closed_visitPredicate (inScope : binder.Scoped) (predicate : Sql.Expr) :
    Action.Keeps Closed (visitPredicate binder predicate) := by
  intro converting closed
  rw [answer_visitPredicate]
  rcases bound : (binder.predicate predicate converting.conversion.scope).answer converting.state
    with ⟨_ | expr, state⟩
  · exact closed
  · refine Conversion.Closed.push closed (by simp [Operator.kind]) ?_
    exact inScope.predicate predicate _ converting.state expr (congrArg Prod.fst bound)

theorem keeps_closed_visitSelect (inScope : binder.Scoped) (statement : SelectStatement) :
    Action.Keeps Closed (visitSelect binder statement) := by
  rw [visitSelect_eq]
  refine Action.Keeps.bind ?_ fun _ => Action.Keeps.bind ?_ fun _ => ?_
  · cases statement.table with
    | none => exact Action.Keeps.pure Closed ()
    | some table => exact keeps_closed_visitTable table
  · cases statement.items with
    | nil => exact Action.Keeps.pure Closed ()
    | cons item items => exact keeps_closed_visitProjection inScope (item :: items)
  · cases statement.filter with
    | none => exact Action.Keeps.pure Closed ()
    | some predicate => exact keeps_closed_visitPredicate inScope predicate

theorem keeps_closed_visitCreateUdf (declaration : UdfDeclaration) :
    Action.Keeps Closed (visitCreateUdf binder declaration) := by
  intro converting closed
  rw [answer_visitCreateUdf]
  rcases (binder.parameters declaration.inputs true).answer converting.state
    with ⟨_ | inputs, state⟩
  · exact closed
  · dsimp only
    rcases (binder.parameters declaration.outputs false).answer state with ⟨_ | outputs, state⟩
    · exact closed
    · exact Conversion.closed_root (by simp [Operator.kind]) _

theorem keeps_closed_visitCreateTable (declaration : TableDeclaration) :
    Action.Keeps Closed (visitCreateTable binder declaration) := by
  intro converting closed
  rw [answer_visitCreateTable]
  rcases (binder.columns declaration.columns).answer converting.state with ⟨_ | columns, state⟩
  · exact closed
  · exact Conversion.closed_root (by simp [Operator.kind]) _

theorem keeps_closed_visitLoadData (statement : LoadStatement) :
    Action.Keeps Closed (visitLoadData binder statement) := by
  intro converting closed
  rw [answer_visitLoadData]
  rcases (binder.dataset? statement.table).answer converting.state with ⟨_ | _ | dataset, state⟩
  · exact closed
  · dsimp only
    rcases (binder.createVideo statement.table.table).answer state with ⟨_ | dataset, state⟩
    · exact closed
    · exact Conversion.closed_root (by simp [Operator.kind]) _
  · exact Conversion.closed_root (by simp [Operator.kind]) _

/-- An insertion replaces the plan if it succeeds and leaves the conversion alone if its table is not
there. -/
theorem closed_visitInsert {converting : Converting σ} (closed : converting.Closed)
    (statement : InsertStatement)
    (admitted : ¬ ((∃ dataset,
        ((binder.dataset? statement.table).answer converting.state).1 = .ok (some dataset)) ∧
      ∃ error, ((visitInsert binder statement).answer converting).1 = .error error)) :
    Closed ((visitInsert binder statement).answer converting).2 := by
  unfold Closed
  rcases visitInsert_cases binder converting statement with same | ⟨dataset, found, failed | planned⟩
  · rw [same]
    exact closed
  · exact absurd ⟨⟨dataset, found⟩, failed⟩ admitted
  · obtain ⟨columns, rows, planned⟩ := planned
    rw [planned]
    exact Conversion.closed_root (by simp [Operator.kind]) { scope := .ofDataset dataset }

/-- One visit keeps the conversion closed. -/
theorem closed_after (inScope : binder.Scoped) {converting : Converting σ}
    (closed : converting.Closed) (visit : Visit)
    (admitted : ¬ visit.StrandsInsertion binder converting) :
    Closed (visit.after binder converting) := by
  -- an insertion is visited as a statement or by itself, and only it needs `admitted`
  have insertion : ∀ statement ∈ visit.insertion?,
      Closed ((visitInsert binder statement).answer converting).2 :=
    fun statement visited => closed_visitInsert closed statement fun stranded =>
      admitted ⟨statement, visited, stranded⟩
  cases visit with
  | whole statement =>
    cases statement with
    | select statement => exact keeps_closed_visitSelect inScope statement converting closed
    | createUdf declaration => exact keeps_closed_visitCreateUdf declaration converting closed
    | insert statement => exact insertion statement rfl
    | createTable declaration => exact keeps_closed_visitCreateTable declaration converting closed
    | loadData statement => exact keeps_closed_visitLoadData statement converting closed
    | unsupported sql => exact closed
  | table table => exact keeps_closed_visitTable table converting closed
  | projection items => exact keeps_closed_visitProjection inScope items converting closed
  | predicate predicate => exact keeps_closed_visitPredicate inScope predicate converting closed
  | select statement => exact keeps_closed_visitSelect inScope statement converting closed
  | createUdf declaration => exact keeps_closed_visitCreateUdf declaration converting closed
  | insert statement => exact insertion statement rfl
  | createTable declaration => exact keeps_closed_visitCreateTable declaration converting closed
  | loadData statement => exact keeps_closed_visitLoadData statement converting closed

end Converting

/-! ## Main statement -/

/-- Over any catalog and after any visits, none of them an insertion that found its table and then failed:
if the plan reads a table at its bottom, then the scope is the scope of that table, and every column that
a filter or a projection of the plan refers to is a column of that table. -/
theorem reached_closed (catalog : CatalogInterface σ) {converting : Converting σ}
    (reached : Reached (.ofCatalog catalog)
      (fun visit before => ¬ visit.StrandsInsertion (.ofCatalog catalog) before) converting) :
    ∀ plan ∈ converting.conversion.plan, ∀ table dataset, plan.bottom = .get table dataset →
      converting.conversion.scope = .ofDataset dataset ∧
      ∀ column ∈ plan.columns, column ∈ dataset.columns := by
  induction reached with
  | start state => exact Conversion.closed_start
  | visit visit reached admitted ih =>
    exact Converting.closed_after (Binder.scoped_ofCatalog catalog) ih visit admitted

/-- A video is loaded, an insertion does not find its table, and a query over the video is built part by
part. -/
theorem reached_closed_afterLoading :
    let visits : List Visit :=
      [.loadData { table := { table := "MyVideo" }, path := "traffic.mp4" },
       .whole (.insert { table := { table := "Other" } }),
       .table { table := "MYVIDEO" },
       .projection [.wildcard ""],
       .predicate (.binary .lt (.ident ⟨"ID", none⟩) (.constant (.number "5" false)))]
    let converting := visits.foldl
      (fun converting visit => visit.after (.ofCatalog Catalog.interface) converting)
      { state := .empty }
    converting.conversion.plan.map Plan.chain = some [.filter, .project, .get] ∧
    ∀ plan ∈ converting.conversion.plan, ∀ table dataset, plan.bottom = .get table dataset →
      converting.conversion.scope = .ofDataset dataset ∧
      ∀ column ∈ plan.columns, column ∈ dataset.columns := by
  refine ⟨by decide +kernel, reached_closed Catalog.interface ?_⟩
  have noInsertion : ∀ (visit : Visit) (before : Converting Catalog), visit.insertion? = none →
      ¬ visit.StrandsInsertion (.ofCatalog Catalog.interface) before := by
    intro visit before none stranded
    obtain ⟨statement, visited, -⟩ := stranded
    rw [none] at visited
    cases visited
  refine .visit _ (.visit _ (.visit _ (.visit _ (.visit _ (.start _) ?_) ?_) ?_) ?_) ?_
  · exact noInsertion _ _ rfl
  · rintro ⟨statement, visited, ⟨dataset, found⟩, -⟩
    cases visited
    cases found
  · exact noInsertion _ _ rfl
  · exact noInsertion _ _ rfl
  · exact noInsertion _ _ rfl

end VideoPlan
