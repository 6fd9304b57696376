import VideoPlan.Proofs.Catalog.WellFormed
import VideoPlan.Proofs.Conversion.Planning
import VideoPlan.Proofs.Conversion.Run
import VideoPlan.Proofs.Scope.Order

/-!
# Wildcards and the tables that are bound

The scope of a conversion is that of the table bound last, whether or not the visit that bound it failed later on
(`scope_after`). A wildcard takes a scope without columns for a sign that no table is bound. But a table may have no
columns: then its scope is empty too, and a wildcard over it is refused.

Main statement: `wildcards_refused_iff`.
-/

namespace VideoPlan

variable {σ : Type}

/-! ## Tables that visits bind -/

namespace Visit

/-- The table whose columns a visit makes those that may be named, if it has one. -/
def source? : Visit → Option TableRef
  | .whole (.select statement) => statement.table
  | .whole (.insert statement) => some statement.table
  | .table ref => some ref
  | .select statement => statement.table
  | .insert statement => some statement.table
  | _ => none

/-- The dataset that the binder finds for a table. -/
def dataset? (binder : Binder σ) (state : σ) (table : TableRef) : Option Dataset :=
  ((binder.dataset? table).answer state).1.toOption.join

/-- The dataset that a visit binds, which may fail after that. -/
def bound? (binder : Binder σ) (visit : Visit) (converting : Converting σ) : Option Dataset :=
  visit.source?.bind (dataset? binder converting.state)

end Visit

/-- The conversions that come about by visits, with the datasets that these bound, the newest first. -/
inductive Bound (binder : Binder σ) : List Dataset → Converting σ → Prop
  | start (state : σ) : Bound binder [] { state }
  | visit {datasets : List Dataset} {converting : Converting σ} (visit : Visit) :
      Bound binder datasets converting →
      Bound binder ((visit.bound? binder converting).toList ++ datasets) (visit.after binder converting)

namespace Converting

/-- The conversion has this scope. -/
def HasScope (scope : Scope) (converting : Converting σ) : Prop :=
  converting.conversion.scope = scope

variable {binder : Binder σ} {scope : Scope}

theorem keeps_scope_ask {α : Type} (action : Action σ α) : Action.Keeps (HasScope scope) (ask action) :=
  fun _ same => same

theorem keeps_scope_pushRoot (operator : Operator) :
    Action.Keeps (HasScope (σ := σ) scope) (pushRoot operator) :=
  fun _ same => same

theorem keeps_scope_setRoot (operator : Operator) :
    Action.Keeps (HasScope (σ := σ) scope) (setRoot operator) :=
  fun _ same => same

theorem keeps_scope_visitProjection (items : List Sql.SelectItem) :
    Action.Keeps (HasScope scope) (visitProjection binder items) :=
  Action.Keeps.bind (fun _ same => same) fun _ =>
    Action.Keeps.bind (keeps_scope_ask _) fun _ => keeps_scope_pushRoot _

theorem keeps_scope_visitPredicate (predicate : Sql.Expr) :
    Action.Keeps (HasScope scope) (visitPredicate binder predicate) :=
  Action.Keeps.bind (fun _ same => same) fun _ =>
    Action.Keeps.bind (keeps_scope_ask _) fun _ => keeps_scope_pushRoot _

theorem keeps_scope_visitCreateUdf (declaration : UdfDeclaration) :
    Action.Keeps (HasScope scope) (visitCreateUdf binder declaration) :=
  Action.Keeps.bind (keeps_scope_ask _) fun _ =>
    Action.Keeps.bind (keeps_scope_ask _) fun _ => keeps_scope_setRoot _

theorem keeps_scope_visitCreateTable (declaration : TableDeclaration) :
    Action.Keeps (HasScope scope) (visitCreateTable binder declaration) :=
  Action.Keeps.bind (keeps_scope_ask _) fun _ => keeps_scope_setRoot _

/-- The columns of the table that a file is loaded into may not be named. -/
theorem keeps_scope_visitLoadData (statement : LoadStatement) :
    Action.Keeps (HasScope scope) (visitLoadData binder statement) := by
  refine Action.Keeps.bind (keeps_scope_ask _) fun found => ?_
  cases found with
  | some dataset => exact keeps_scope_setRoot _
  | none => exact Action.Keeps.bind (keeps_scope_ask _) fun _ => keeps_scope_setRoot _

variable (binder) (converting : Converting σ)

theorem scope_visitTable (table : TableRef) :
    ((visitTable binder table).answer converting).2.conversion.scope =
      ((Visit.dataset? binder converting.state table).map Scope.ofDataset).getD converting.conversion.scope := by
  rw [answer_visitTable, Visit.dataset?]
  rcases (binder.dataset? table).answer converting.state with ⟨_ | _ | _, state⟩ <;> rfl

theorem scope_visitInsert (statement : InsertStatement) :
    ((visitInsert binder statement).answer converting).2.conversion.scope =
      ((Visit.dataset? binder converting.state statement.table).map Scope.ofDataset).getD
        converting.conversion.scope := by
  rw [answer_visitInsert, Visit.dataset?]
  rcases (binder.dataset? statement.table).answer converting.state with ⟨_ | _ | dataset, state⟩
  · rfl
  · rfl
  · dsimp only
    cases targetColumns dataset (.ofDataset dataset) statement.columns with
    | error error => rfl
    | ok columns =>
      dsimp only
      rcases (binder.rows statement.rows).answer state with ⟨_ | rows, state⟩
      · rfl
      · dsimp only
        cases checkRows columns.length 1 rows <;> rfl

/-- The clauses behind the table of a query keep its scope. -/
theorem scope_visitSelect (statement : SelectStatement) :
    ((visitSelect binder statement).answer converting).2.conversion.scope =
      ((statement.table.bind (Visit.dataset? binder converting.state)).map Scope.ofDataset).getD
        converting.conversion.scope := by
  have clauses (scope : Scope) : Action.Keeps (HasScope scope)
      (visitTargets binder statement.items >>= fun _ => visitFilter binder statement.filter) := by
    apply Action.Keeps.bind
    · cases statement.items with
      | nil => exact Action.Keeps.pure _ ()
      | cons item items => exact keeps_scope_visitProjection (item :: items)
    · intro _
      cases statement.filter with
      | none => exact Action.Keeps.pure _ ()
      | some predicate => exact keeps_scope_visitPredicate predicate
  rw [visitSelect_eq]
  cases statement.table with
  | none => exact clauses _ converting rfl
  | some table =>
    have read := scope_visitTable binder converting table
    show ((visitTable binder table >>= _).answer converting).2.conversion.scope = _
    rw [Action.answer_bind]
    rcases answered : (visitTable binder table).answer converting with ⟨_ | _, after⟩ <;> rw [answered] at read
    · exact read
    · exact clauses _ after read

end Converting

/-- A visit that binds a dataset makes its columns those that may be named, and any other visit changes nothing in
this. -/
theorem Visit.scope_after (binder : Binder σ) (visit : Visit) (converting : Converting σ) :
    (visit.after binder converting).conversion.scope =
      ((visit.bound? binder converting).map Scope.ofDataset).getD converting.conversion.scope := by
  cases visit with
  | whole statement =>
    cases statement with
    | select statement => exact Converting.scope_visitSelect binder converting statement
    | createUdf declaration => exact Converting.keeps_scope_visitCreateUdf declaration converting rfl
    | insert statement => exact Converting.scope_visitInsert binder converting statement
    | createTable declaration => exact Converting.keeps_scope_visitCreateTable declaration converting rfl
    | loadData statement => exact Converting.keeps_scope_visitLoadData statement converting rfl
    | unsupported sql => rfl
  | table table => exact Converting.scope_visitTable binder converting table
  | projection items => exact Converting.keeps_scope_visitProjection items converting rfl
  | predicate predicate => exact Converting.keeps_scope_visitPredicate predicate converting rfl
  | select statement => exact Converting.scope_visitSelect binder converting statement
  | createUdf declaration => exact Converting.keeps_scope_visitCreateUdf declaration converting rfl
  | insert statement => exact Converting.scope_visitInsert binder converting statement
  | createTable declaration => exact Converting.keeps_scope_visitCreateTable declaration converting rfl
  | loadData statement => exact Converting.keeps_scope_visitLoadData statement converting rfl

/-- After any visits the scope is that of the dataset bound last. -/
theorem Bound.scope_eq {binder : Binder σ} {datasets : List Dataset} {converting : Converting σ}
    (bound : Bound binder datasets converting) :
    converting.conversion.scope = (datasets.head?.map Scope.ofDataset).getD .empty := by
  induction bound with
  | start state => rfl
  | @visit datasets converting visit _ ih =>
    rw [visit.scope_after, ih]
    cases visit.bound? binder converting <;> rfl

theorem Bound.isEmpty_scope_iff {binder : Binder σ} {datasets : List Dataset} {converting : Converting σ}
    (bound : Bound binder datasets converting) :
    converting.conversion.scope.isEmpty = true ↔ ∀ dataset ∈ datasets.head?, dataset.columns = [] := by
  rw [bound.scope_eq]
  cases datasets with
  | nil => exact ⟨fun _ => nofun, fun _ => rfl⟩
  | cons dataset datasets =>
    show (Scope.ofDataset dataset).isEmpty = true ↔ _
    rw [Scope.ofDataset, Scope.isEmpty_ofColumns]
    simp

/-! ## Wildcards -/

/-- The items are wildcards, at least one. -/
def AreWildcards (items : List Sql.SelectItem) : Prop :=
  items ≠ [] ∧ ∀ item ∈ items, ∃ options, item = .wildcard options

namespace Expr

theorem ofItem_wildcard (scope : Scope) (options : String) :
    ofItem (some scope) (.wildcard options) =
      if scope.isEmpty then .error (.bind .wildcardWithoutTable) else .ok (scope.columnsInOrder.map .column) := by
  rw [ofItem, Option.filter]
  cases scope.isEmpty <;> rfl

/-- Each wildcard stands for the columns of the scope, which must have some. -/
theorem ofItems_wildcards (scope : Scope) {items : List Sql.SelectItem} (wildcards : AreWildcards items) :
    ofItems (some scope) items =
      if scope.isEmpty then .error (.bind .wildcardWithoutTable)
      else .ok (items.flatMap fun _ => scope.columnsInOrder.map .column) := by
  obtain ⟨nonempty, wildcards⟩ := wildcards
  split
  · rename_i none
    cases items with
    | nil => exact absurd rfl nonempty
    | cons item items =>
      obtain ⟨options, rfl⟩ := wildcards item List.mem_cons_self
      rw [ofItems, ofItem_wildcard, if_pos none]
      rfl
  · rename_i some
    clear nonempty
    induction items with
    | nil => rfl
    | cons item items ih =>
      obtain ⟨⟨options, rfl⟩, others⟩ := List.forall_mem_cons.mp wildcards
      rw [ofItems, ofItem_wildcard, if_neg some, ih others]
      rfl

end Expr

/-! ## Main statement -/

namespace Converting

variable (catalog : CatalogInterface σ) (converting : Converting σ) {items : List Sql.SelectItem}
  (wildcards : AreWildcards items)
include wildcards

theorem answer_visitProjection_wildcards :
    (visitProjection (.ofCatalog catalog) items).answer converting =
      if converting.conversion.scope.isEmpty then (.error (.bind .wildcardWithoutTable), converting)
      else (.ok (), { converting with conversion := converting.conversion.push (.project
        (items.flatMap fun _ => converting.conversion.scope.columnsInOrder.map .column)) }) := by
  rw [answer_visitProjection, Binder.answer_projection_ofCatalog, Expr.ofItems_wildcards _ wildcards]
  cases converting.conversion.scope.isEmpty <;> rfl

/-- A query for wildcards of a table, up to its filter. -/
theorem answer_visitSelect_wildcards {statement : SelectStatement} {table : TableRef} {dataset : Dataset}
    (reads : statement.table = some table) (same : statement.items = items)
    (found : catalog.find? converting.state table.table = some dataset) :
    let scope := Scope.ofDataset dataset
    let get := Plan.leaf (.get table dataset)
    (visitSelect (.ofCatalog catalog) statement).answer converting =
      if dataset.columns = [] then
        (.error (.bind .wildcardWithoutTable), { conversion := { plan := some get, scope }, state := converting.state })
      else
        (visitFilter (.ofCatalog catalog) statement.filter).answer
          { conversion :=
              { plan := some (.node (.project (items.flatMap fun _ => scope.columnsInOrder.map .column)) [get]), scope }
            state := converting.state } := by
  intro scope get
  have read : (visitTable (.ofCatalog catalog) table).answer converting =
      (.ok (), { conversion := { plan := some get, scope }, state := converting.state }) := by
    rw [answer_visitTable, Binder.answer_dataset_ofCatalog, found]
  have targets : visitTargets (.ofCatalog catalog) items = visitProjection (.ofCatalog catalog) items :=
    if_neg fun none => wildcards.1 (List.isEmpty_iff.mp none)
  have columns : scope.isEmpty = true ↔ dataset.columns = [] := Scope.isEmpty_ofColumns dataset.columns
  rw [visitSelect_eq, reads, same, targets, visitSource, Action.answer_bind, read]
  dsimp only
  rw [Action.answer_bind, answer_visitProjection_wildcards catalog _ wildcards]
  by_cases none : dataset.columns = []
  · rw [if_pos none, if_pos (columns.mpr none)]
  · rw [if_neg none, if_neg (none ∘ columns.mp)]
    rfl

end Converting

/-- Over any catalog and after any visits, the scope is empty exactly if no table was bound or the one bound last has
no columns, and wildcards are refused exactly if the scope is empty. A query for wildcards of a table that is there
is refused exactly if the table has no columns; else its projection has the columns of the table for each wildcard,
and the filter comes next. -/
theorem wildcards_refused_iff (catalog : CatalogInterface σ) {datasets : List Dataset} {converting : Converting σ}
    (bound : Bound (.ofCatalog catalog) datasets converting) {items : List Sql.SelectItem}
    (wildcards : AreWildcards items) :
    (converting.conversion.scope.isEmpty = true ↔ ∀ dataset ∈ datasets.head?, dataset.columns = []) ∧
    ((Converting.visitProjection (.ofCatalog catalog) items).answer converting).1 =
      (if converting.conversion.scope.isEmpty then .error (.bind .wildcardWithoutTable) else .ok ()) ∧
    ∀ (statement : SelectStatement) (table : TableRef) (dataset : Dataset), statement.table = some table →
      statement.items = items → catalog.find? converting.state table.table = some dataset →
      let scope := Scope.ofDataset dataset
      let get := Plan.leaf (.get table dataset)
      (Converting.visitSelect (.ofCatalog catalog) statement).answer converting =
        if dataset.columns = [] then
          (.error (.bind .wildcardWithoutTable),
            { conversion := { plan := some get, scope }, state := converting.state })
        else
          (Converting.visitFilter (.ofCatalog catalog) statement.filter).answer
            { conversion :=
                { plan := some (.node (.project (items.flatMap fun _ => scope.columnsInOrder.map .column)) [get])
                  scope }
              state := converting.state } := by
  refine ⟨bound.isEmpty_scope_iff, ?_, ?_⟩
  · rw [Converting.answer_visitProjection_wildcards catalog converting wildcards]
    split <;> rfl
  · intro statement table dataset reads same found
    exact Converting.answer_visitSelect_wildcards catalog converting wildcards reads same found

/-- A table with columns is bound, so wildcards are not refused, but over a table without columns they are. -/
theorem wildcards_refused_iff_columns :
    let catalog := ((Catalog.Call.register "Empty" []).outcome
      ((Catalog.Call.register "Labels" [{ name := "label", type := { base := .text } }]).outcome .empty).2).2
    let items : List Sql.SelectItem := [.wildcard "", .wildcard ""]
    let converting : Converting Catalog := (Visit.table { table := "Labels" }).after (.ofCatalog Catalog.interface)
      { state := catalog }
    ((Converting.visitProjection (.ofCatalog Catalog.interface) items).answer converting).1 = .ok () ∧
      ((Converting.visitSelect (.ofCatalog Catalog.interface) { table := some { table := "EMPTY" }, items }).answer
        converting).1 = .error (.bind .wildcardWithoutTable) := by
  intro catalog items converting
  have bound : Bound (.ofCatalog Catalog.interface) _ converting := .visit _ (.start catalog)
  have wildcards : AreWildcards items := ⟨nofun, by simp [items]⟩
  obtain ⟨-, refused, query⟩ := wildcards_refused_iff Catalog.interface bound wildcards
  have columns : converting.conversion.scope.isEmpty = false := by decide +kernel
  obtain ⟨dataset, found, none⟩ : ∃ dataset, catalog.find? "EMPTY" = some dataset ∧ dataset.columns = [] :=
    ⟨_, rfl, rfl⟩
  refine ⟨?_, ?_⟩
  · rw [refused, columns]
    rfl
  · rw [query { table := some { table := "EMPTY" }, items } _ dataset rfl rfl found, if_pos none]

/-- A dataset of a catalog may have no columns: a query for all of them reads a table and is refused as if it had
none. -/
theorem wildcard_refused_over_table :
    let catalog := ((Catalog.Call.register "Empty" []).outcome .empty).2
    catalog.Reached ∧ catalog.datasets.map (·.name) = ["Empty"] ∧
      ((Converting.visitSelect (.ofCatalog Catalog.interface)
        { table := some { table := "Empty" }, items := [.wildcard ""] }).answer { state := catalog }).1 =
          .error (.bind .wildcardWithoutTable) := by
  intro catalog
  refine ⟨Catalog.Reached.empty.call _, by decide +kernel, by decide +kernel⟩

end VideoPlan
