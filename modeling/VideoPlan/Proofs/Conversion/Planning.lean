import VideoPlan.Proofs.Conversion.Dialogue

/-!
# Dialogues with a catalog

A binder over a catalog answers all questions but one without changing the catalog, and all but two without
looking at it. So a query is planned by a function of the dataset that its table has.
-/

namespace VideoPlan

variable {σ α : Type} (catalog : CatalogInterface σ) (state : σ)

namespace Binder

/-! ## Answers -/

@[simp] theorem answer_dataset_ofCatalog (table : TableRef) :
    ((ofCatalog catalog).dataset? table).answer state =
      (.ok (catalog.find? state table.table), state) := rfl

@[simp] theorem answer_predicate_ofCatalog (predicate : Sql.Expr) (scope : Scope) :
    ((ofCatalog catalog).predicate predicate scope).answer state =
      (Expr.ofPredicate scope predicate, state) :=
  Action.answer_ofExcept _ state

@[simp] theorem answer_projection_ofCatalog (items : List Sql.SelectItem) (scope : Scope) :
    ((ofCatalog catalog).projection items scope).answer state =
      (Expr.ofItems (some scope) items, state) :=
  Action.answer_ofExcept _ state

@[simp] theorem answer_rows_ofCatalog (rows : List (List Sql.Expr)) :
    ((ofCatalog catalog).rows rows).answer state = (Expr.ofRows rows, state) :=
  Action.answer_ofExcept _ state

@[simp] theorem answer_parameters_ofCatalog (definitions : List ColumnDefinition) (isInput : Bool) :
    ((ofCatalog catalog).parameters definitions isInput).answer state =
      (ColumnDefinition.toParameters isInput definitions, state) :=
  Action.answer_ofExcept _ state

@[simp] theorem answer_columns_ofCatalog (definitions : List ColumnDefinition) :
    ((ofCatalog catalog).columns definitions).answer state =
      (ColumnDefinition.toColumns definitions, state) :=
  Action.answer_ofExcept _ state

end Binder

/-! ## Queries -/

namespace SelectStatement

/-- The bound targets of a query, if it has any. -/
def targets? (scope : Scope) : List Sql.SelectItem → Except Error (Option (List Expr))
  | [] => .ok none
  | item :: items => some <$> Expr.ofItems (some scope) (item :: items)

/-- The bound predicate of a query, if it has one. -/
def predicate? (scope : Scope) : Option Sql.Expr → Except Error (Option Expr)
  | none => .ok none
  | some predicate => some <$> Expr.ofPredicate scope predicate

/-- The plan of a query over the dataset of its table. -/
def planOver (statement : SelectStatement) (source : Option (TableRef × Dataset)) :
    Except Error (Option Plan) := do
  let targets ← targets? (.ofSource source) statement.items
  let predicate ← predicate? (.ofSource source) statement.filter
  return Plan.ofChain (Operator.ofQuery source targets predicate)

end SelectStatement

namespace Converting

/-- A table is looked up, which never fails by itself. -/
theorem told_lookUp (table : TableRef) (next : Option Dataset → Dialogue α) :
    told (.ofCatalog catalog) (.ask (.dataset table) next) state =
      told (.ofCatalog catalog) (next (catalog.find? state table.table)) state := by
  rw [told_ask]
  rfl

theorem told_askTargets (items : List Sql.SelectItem) (scope : Scope)
    (next : Option (List Expr) → Dialogue α) :
    told (.ofCatalog catalog) (.askTargets items scope next) state =
      match SelectStatement.targets? scope items with
      | .error error => (.error error, state)
      | .ok targets => told (.ofCatalog catalog) (next targets) state := by
  cases items with
  | nil => rfl
  | cons item items =>
    unfold Dialogue.askTargets SelectStatement.targets?
    rw [told_ask]
    dsimp only [Binder.reply]
    rw [Binder.answer_projection_ofCatalog]
    cases Expr.ofItems (some scope) (item :: items) <;> rfl

theorem told_askPredicate (predicate : Option Sql.Expr) (scope : Scope)
    (next : Option Expr → Dialogue α) :
    told (.ofCatalog catalog) (.askPredicate predicate scope next) state =
      match SelectStatement.predicate? scope predicate with
      | .error error => (.error error, state)
      | .ok predicate => told (.ofCatalog catalog) (next predicate) state := by
  cases predicate with
  | none => rfl
  | some predicate =>
    unfold Dialogue.askPredicate SelectStatement.predicate?
    rw [told_ask]
    dsimp only [Binder.reply]
    rw [Binder.answer_predicate_ofCatalog]
    cases Expr.ofPredicate scope predicate <;> rfl

/-- What follows the table of a query is a function of its dataset. -/
theorem told_query (statement : SelectStatement) (source : Option (TableRef × Dataset)) :
    told (.ofCatalog catalog)
        (.askTargets statement.items (.ofSource source) fun targets =>
          .askPredicate statement.filter (.ofSource source) fun predicate =>
          .done (.ok (Plan.ofChain (Operator.ofQuery source targets predicate)))) state =
      (statement.planOver source, state) := by
  rw [told_askTargets]
  unfold SelectStatement.planOver
  cases SelectStatement.targets? (.ofSource source) statement.items with
  | error error => rfl
  | ok targets =>
    dsimp only
    rw [told_askPredicate]
    cases SelectStatement.predicate? (.ofSource source) statement.filter <;> rfl

/-- A query without a table is planned without looking at the catalog. -/
theorem told_ofSelect_none {statement : SelectStatement} (reads : statement.table = none) :
    told (.ofCatalog catalog) (.ofSelect statement) state = (statement.planOver none, state) := by
  unfold Dialogue.ofSelect Dialogue.askSource
  rw [reads]
  exact told_query catalog state statement none

/-- A query over a table that is there is planned over its dataset. -/
theorem told_ofSelect_some {statement : SelectStatement} {table : TableRef}
    (reads : statement.table = some table) :
    told (.ofCatalog catalog) (.ofSelect statement) state =
      match catalog.find? state table.table with
      | some dataset => (statement.planOver (some (table, dataset)), state)
      | none => (.error (.tableNotFound table.table), state) := by
  unfold Dialogue.ofSelect Dialogue.askSource
  rw [reads]
  dsimp only
  rw [told_needDataset, Binder.answer_dataset_ofCatalog]
  cases catalog.find? state table.table with
  | none => rfl
  | some dataset => exact told_query catalog state statement (some (table, dataset))

end Converting

/-! ## Insertions -/

/-- The plan of an insertion into the dataset of its table. -/
def InsertStatement.planInto (statement : InsertStatement) (dataset : Dataset) :
    Except Error (Option Plan) := do
  let columns ← Converting.targetColumns dataset (.ofDataset dataset) statement.columns
  let rows ← Expr.ofRows statement.rows
  Converting.checkRows columns.length 1 rows
  return some (.leaf (.insert statement.table dataset.id columns rows))

namespace Converting

/-- An insertion into a table that is there is planned for its dataset. -/
theorem told_ofInsert (statement : InsertStatement) :
    told (.ofCatalog catalog) (.ofInsert statement) state =
      match catalog.find? state statement.table.table with
      | some dataset => (statement.planInto dataset, state)
      | none => (.error (.tableNotFound statement.table.table), state) := by
  unfold Dialogue.ofInsert
  rw [told_needDataset, Binder.answer_dataset_ofCatalog]
  cases catalog.find? state statement.table.table with
  | none => rfl
  | some dataset =>
    dsimp only
    unfold InsertStatement.planInto
    rw [targetColumns_eq]
    cases statement.columns.find? fun name => !(Scope.ofDataset dataset).contains name with
    | some name => rfl
    | none =>
      dsimp only
      rw [told_ask]
      dsimp only [Binder.reply]
      rw [Binder.answer_rows_ofCatalog]
      cases Expr.ofRows statement.rows with
      | error error => rfl
      | ok rows =>
        show told _ _ _ = (checkRows _ 1 rows >>= _, state)
        rw [checkRows_eq]
        cases misfit? _ 1 rows <;> rfl

end Converting

/-! ## Dialogues that only look tables up -/

/-- Whether the question is answered without the catalog. -/
def Question.isBinding : Question → Bool
  | .dataset _ => false
  | .createVideo _ => false
  | _ => true

/-- Questions of binding have one answer for all states. -/
theorem Binder.answer_reply_of_isBinding {question : Question}
    (binding : question.isBinding = true) :
    ∃ result, ∀ state, ((Binder.ofCatalog catalog).reply question).answer state =
      (result, state) := by
  cases question with
  | dataset table => cases binding
  | createVideo name => cases binding
  | predicate predicate scope => exact ⟨_, fun state => answer_predicate_ofCatalog _ state _ _⟩
  | projection items scope => exact ⟨_, fun state => answer_projection_ofCatalog _ state _ _⟩
  | rows rows => exact ⟨_, fun state => answer_rows_ofCatalog _ state _⟩
  | parameters definitions isInput =>
    exact ⟨_, fun state => answer_parameters_ofCatalog _ state _ _⟩
  | columns definitions => exact ⟨_, fun state => answer_columns_ofCatalog _ state _⟩

namespace Dialogue

/-- The dialogue creates nothing, and it fails where a table that it looks up is not there. -/
inductive Steady : Dialogue α → Prop
  | done (result : Except Error α) : Steady (.done result)
  | lookUp {table : TableRef} {next : Option Dataset → Dialogue α} :
      (∀ dataset, Steady (next (some dataset))) → (∃ error, next none = .done (.error error)) →
      Steady (.ask (.dataset table) next)
  | bind {question : Question} {next : question.Answer → Dialogue α} :
      question.isBinding = true → (∀ answer, Steady (next answer)) → Steady (.ask question next)

theorem Steady.needDataset {table : TableRef} {next : Dataset → Dialogue α}
    (steady : ∀ dataset, Steady (next dataset)) : Steady (.needDataset table next) :=
  .lookUp steady ⟨_, rfl⟩

theorem steady_ofSelect (statement : SelectStatement) : (ofSelect statement).Steady := by
  have predicate : ∀ source targets, Steady
      (askPredicate statement.filter (.ofSource source) fun predicate =>
        .done (.ok (Plan.ofChain (Operator.ofQuery source targets predicate)))) := by
    intro source targets
    cases statement.filter with
    | none => exact .done _
    | some predicate => exact .bind rfl fun _ => .done _
  have query : ∀ source, Steady
      (askTargets statement.items (.ofSource source) fun targets =>
        askPredicate statement.filter (.ofSource source) fun predicate =>
        .done (.ok (Plan.ofChain (Operator.ofQuery source targets predicate)))) := by
    intro source
    cases statement.items with
    | nil => exact predicate source none
    | cons item items => exact .bind rfl fun targets => predicate source (some targets)
  unfold ofSelect
  cases statement.table with
  | none => exact query none
  | some table => exact .needDataset fun dataset => query (some (table, dataset))

theorem steady_ofInsert (statement : InsertStatement) : (ofInsert statement).Steady := by
  refine .needDataset fun dataset => ?_
  dsimp only
  split
  · exact .done _
  · refine .bind rfl fun rows => ?_
    split <;> exact .done _

/-- Only a file that is loaded may change the catalog. -/
theorem steady_ofStatement {statement : Statement}
    (noFile : ∀ load, statement ≠ .loadData load) : (ofStatement statement).Steady := by
  cases statement with
  | select statement => exact steady_ofSelect statement
  | createUdf declaration => exact .bind rfl fun _ => .bind rfl fun _ => .done _
  | insert statement => exact steady_ofInsert statement
  | createTable declaration => exact .bind rfl fun _ => .done _
  | loadData load => exact absurd rfl (noFile load)
  | unsupported sql => exact .done _

/-- A steady dialogue leaves the catalog as it is. -/
theorem Steady.told_snd {dialogue : Dialogue α} (steady : dialogue.Steady) :
    (Converting.told (.ofCatalog catalog) dialogue state).2 = state := by
  induction steady with
  | done result => rfl
  | @lookUp table next _ missing ih =>
    rw [Converting.told_lookUp]
    cases catalog.find? state table.table with
    | none =>
      obtain ⟨error, failed⟩ := missing
      rw [failed]
      rfl
    | some dataset => exact ih dataset
  | bind binding _ ih =>
    obtain ⟨result, answered⟩ := Binder.answer_reply_of_isBinding catalog binding
    rw [Converting.told_ask, answered]
    cases result with
    | error error => rfl
    | ok answer => exact ih answer

/-- A steady dialogue that succeeds has the same result in every state that knows the same tables. -/
theorem Steady.told_of_finds {dialogue : Dialogue α} (steady : dialogue.Steady) {state' : σ} {x : α}
    (finds : ∀ name dataset, catalog.find? state name = some dataset →
      catalog.find? state' name = some dataset)
    (succeeds : (Converting.told (.ofCatalog catalog) dialogue state).1 = .ok x) :
    (Converting.told (.ofCatalog catalog) dialogue state').1 = .ok x := by
  induction steady with
  | done result => exact succeeds
  | @lookUp table next _ missing ih =>
    rw [Converting.told_lookUp] at succeeds ⊢
    cases found : catalog.find? state table.table with
    -- the dialogue succeeded, so every table that it looked up was there
    | none =>
      obtain ⟨error, failed⟩ := missing
      rw [found, failed] at succeeds
      cases succeeds
    | some dataset =>
      rw [found] at succeeds
      rw [finds table.table dataset found]
      exact ih dataset succeeds
  | bind binding _ ih =>
    obtain ⟨result, answered⟩ := Binder.answer_reply_of_isBinding catalog binding
    rw [Converting.told_ask, answered] at succeeds ⊢
    cases result with
    | error error => cases succeeds
    | ok answer => exact ih answer succeeds

end Dialogue

end VideoPlan
