import VideoPlan.Conversion
import VideoPlan.Proofs.Action

/-!
# What each visit does

A conversion is driven by visits: to a whole statement, or to one of its parts. For each of them one
equation says what it asks the binder, what it answers and which conversion it leaves, whatever the binder
answers. Everything else about conversions follows from these equations and not from the definitions.
-/

namespace VideoPlan

variable {σ α : Type}

namespace Conversion

/-- The conversion with an operator on top of its plan. -/
def push (operator : Operator) (conversion : Conversion) : Conversion :=
  { conversion with plan := some (.node operator conversion.plan.toList) }

/-- The conversion with one operator in place of its plan. -/
def root (operator : Operator) (conversion : Conversion) : Conversion :=
  { conversion with plan := some (.leaf operator) }

end Conversion

namespace Converting

/-! ## Steps -/

@[simp] theorem answer_ask (action : Action σ α) (converting : Converting σ) :
    (ask action).answer converting =
      ((action.answer converting.state).1,
        { converting with state := (action.answer converting.state).2 }) := rfl

@[simp] theorem answer_scope (converting : Converting σ) :
    (scope : Action (Converting σ) Scope).answer converting =
      (.ok converting.conversion.scope, converting) := rfl

@[simp] theorem answer_setScope (scope : Scope) (converting : Converting σ) :
    (setScope scope : Action (Converting σ) Unit).answer converting =
      (.ok (), { converting with conversion.scope := scope }) := rfl

variable (binder : Binder σ) (converting : Converting σ)

/-- A table must be there. -/
theorem answer_dataset (table : TableRef) :
    (dataset binder table).answer converting =
      match (binder.dataset? table).answer converting.state with
      | (.ok (some dataset), state) => (.ok dataset, { converting with state })
      | (.ok none, state) => (.error (.tableNotFound table.table), { converting with state })
      | (.error error, state) => (.error error, { converting with state }) := by
  rw [dataset, Action.answer_bind, answer_ask]
  rcases (binder.dataset? table).answer converting.state with ⟨_ | _ | _, state⟩ <;> rfl

/-! ## Parts of queries -/

theorem answer_visitTable (table : TableRef) :
    (visitTable binder table).answer converting =
      match (binder.dataset? table).answer converting.state with
      | (.ok (some dataset), state) =>
        (.ok (), { conversion := { plan := some (.leaf (.get table dataset)),
                                   scope := .ofDataset dataset }, state })
      | (.ok none, state) => (.error (.tableNotFound table.table), { converting with state })
      | (.error error, state) => (.error error, { converting with state }) := by
  rw [visitTable, Action.answer_bind, answer_dataset]
  rcases (binder.dataset? table).answer converting.state with ⟨_ | _ | _, state⟩ <;> rfl

theorem answer_visitProjection (items : List Sql.SelectItem) :
    (visitProjection binder items).answer converting =
      match (binder.projection items converting.conversion.scope).answer converting.state with
      | (.ok targets, state) =>
        (.ok (), { conversion := converting.conversion.push (.project targets), state })
      | (.error error, state) => (.error error, { converting with state }) := by
  rw [visitProjection, Action.answer_bind, answer_scope]
  -- the scope is read from the conversion that the visit started with
  show Action.answer (ask (binder.projection items converting.conversion.scope) >>= _) _ = _
  rw [Action.answer_bind, answer_ask]
  rcases (binder.projection items converting.conversion.scope).answer converting.state
    with ⟨_ | _, state⟩ <;> rfl

theorem answer_visitPredicate (predicate : Sql.Expr) :
    (visitPredicate binder predicate).answer converting =
      match (binder.predicate predicate converting.conversion.scope).answer converting.state with
      | (.ok predicate, state) =>
        (.ok (), { conversion := converting.conversion.push (.filter predicate), state })
      | (.error error, state) => (.error error, { converting with state }) := by
  rw [visitPredicate, Action.answer_bind, answer_scope]
  show Action.answer (ask (binder.predicate predicate converting.conversion.scope) >>= _) _ = _
  rw [Action.answer_bind, answer_ask]
  rcases (binder.predicate predicate converting.conversion.scope).answer converting.state
    with ⟨_ | _, state⟩ <;> rfl

/-- Visits the table of a query, if it has one. -/
def visitSource : Option TableRef → Action (Converting σ) Unit
  | some table => visitTable binder table
  | none => pure ()

/-- Visits the items of a query, if it has any. -/
def visitTargets (items : List Sql.SelectItem) : Action (Converting σ) Unit :=
  if items.isEmpty then pure () else visitProjection binder items

theorem visitTargets_cons (item : Sql.SelectItem) (items : List Sql.SelectItem) :
    visitTargets binder (item :: items) = visitProjection binder (item :: items) := rfl

/-- Visits the predicate of a query, if it has one. -/
def visitFilter : Option Sql.Expr → Action (Converting σ) Unit
  | some predicate => visitPredicate binder predicate
  | none => pure ()

/-- A query is visited clause by clause: the table, the items, the predicate. -/
theorem visitSelect_eq (statement : SelectStatement) :
    visitSelect binder statement =
      (visitSource binder statement.table >>= fun _ =>
        visitTargets binder statement.items >>= fun _ => visitFilter binder statement.filter) := by
  unfold visitSelect visitTargets
  cases statement.table <;> cases statement.filter <;> cases statement.items.isEmpty <;> rfl

/-! ## Other statements -/

theorem answer_visitCreateUdf (declaration : UdfDeclaration) :
    (visitCreateUdf binder declaration).answer converting =
      match (binder.parameters declaration.inputs true).answer converting.state with
      | (.error error, state) => (.error error, { converting with state })
      | (.ok inputs, state) =>
        match (binder.parameters declaration.outputs false).answer state with
        | (.error error, state) => (.error error, { converting with state })
        | (.ok outputs, state) =>
          (.ok (), { conversion := converting.conversion.root (.createUdf
                       { name := declaration.name, ifNotExists := declaration.ifNotExists, inputs,
                         outputs, implementation := declaration.implementation,
                         udfType := declaration.udfType }), state }) := by
  rw [visitCreateUdf, Action.answer_bind, answer_ask]
  rcases (binder.parameters declaration.inputs true).answer converting.state
    with ⟨_ | inputs, state⟩
  · rfl
  · show Action.answer (ask (binder.parameters declaration.outputs false) >>= _) _ = _
    rw [Action.answer_bind, answer_ask]
    dsimp only
    rcases (binder.parameters declaration.outputs false).answer state with ⟨_ | _, state⟩ <;> rfl

theorem answer_visitLoadData (statement : LoadStatement) :
    (visitLoadData binder statement).answer converting =
      match (binder.dataset? statement.table).answer converting.state with
      | (.error error, state) => (.error error, { converting with state })
      | (.ok (some dataset), state) =>
        (.ok (), { conversion := converting.conversion.root (.loadData dataset statement.path),
                   state })
      | (.ok none, state) =>
        match (binder.createVideo statement.table.table).answer state with
        | (.error error, state) => (.error error, { converting with state })
        | (.ok dataset, state) =>
          (.ok (), { conversion := converting.conversion.root (.loadData dataset statement.path),
                     state }) := by
  rw [visitLoadData, Action.answer_bind, answer_ask]
  rcases (binder.dataset? statement.table).answer converting.state with ⟨_ | _ | _, state⟩
  · rfl
  · show Action.answer (ask (binder.createVideo statement.table.table) >>= _) _ = _
    rw [Action.answer_bind, answer_ask]
    dsimp only
    rcases (binder.createVideo statement.table.table).answer state with ⟨_ | _, state⟩ <;> rfl
  · rfl

/-- What an insertion does once its table is known: the scope is that of the table, whatever follows. -/
theorem answer_visitInsert (statement : InsertStatement) :
    (visitInsert binder statement).answer converting =
      match (binder.dataset? statement.table).answer converting.state with
      | (.error error, state) => (.error error, { converting with state })
      | (.ok none, state) =>
        (.error (.tableNotFound statement.table.table), { converting with state })
      | (.ok (some dataset), state) =>
        let known := { converting.conversion with scope := Scope.ofDataset dataset }
        match targetColumns dataset (.ofDataset dataset) statement.columns with
        | .error error => (.error error, { conversion := known, state })
        | .ok columns =>
          match (binder.rows statement.rows).answer state with
          | (.error error, state) => (.error error, { conversion := known, state })
          | (.ok rows, state) =>
            match checkRows columns.length 1 rows with
            | .error error => (.error error, { conversion := known, state })
            | .ok _ =>
              (.ok (), { conversion := known.root (.insert statement.table dataset.id columns rows),
                         state }) := by
  rw [visitInsert, Action.answer_bind, answer_dataset]
  rcases (binder.dataset? statement.table).answer converting.state with ⟨_ | _ | dataset, state⟩
  · rfl
  · rfl
  · dsimp only
    rw [Action.answer_bind, answer_setScope]
    dsimp only
    rw [Action.answer_bind, Action.answer_ofExcept]
    cases targetColumns dataset (.ofDataset dataset) statement.columns with
    | error error => rfl
    | ok columns =>
      dsimp only
      rw [Action.answer_bind, answer_ask]
      dsimp only
      rcases (binder.rows statement.rows).answer state with ⟨_ | rows, state⟩
      · rfl
      · dsimp only
        rw [Action.answer_bind, Action.answer_ofExcept]
        cases checkRows columns.length 1 rows <;> rfl

/-- An insertion leaves the conversion alone, or fails behind its table, or becomes the plan. -/
theorem visitInsert_cases (statement : InsertStatement) :
    ((visitInsert binder statement).answer converting).2.conversion = converting.conversion ∨
    ∃ dataset, ((binder.dataset? statement.table).answer converting.state).1 = .ok (some dataset) ∧
      ((∃ error, ((visitInsert binder statement).answer converting).1 = .error error) ∨
        ∃ columns rows, ((visitInsert binder statement).answer converting).2.conversion =
          { plan := some (.leaf (.insert statement.table dataset.id columns rows)),
            scope := .ofDataset dataset }) := by
  rw [answer_visitInsert]
  rcases (binder.dataset? statement.table).answer converting.state with ⟨_ | _ | dataset, state⟩
  · exact .inl rfl
  · exact .inl rfl
  · refine .inr ⟨dataset, rfl, ?_⟩
    dsimp only
    cases targetColumns dataset (.ofDataset dataset) statement.columns with
    | error error => exact .inl ⟨error, rfl⟩
    | ok columns =>
      dsimp only
      rcases (binder.rows statement.rows).answer state with ⟨error | rows, state⟩
      · exact .inl ⟨error, rfl⟩
      · dsimp only
        cases checkRows columns.length 1 rows with
        | error error => exact .inl ⟨error, rfl⟩
        | ok _ => exact .inr ⟨columns, rows, rfl⟩

theorem answer_visitCreateTable (declaration : TableDeclaration) :
    (visitCreateTable binder declaration).answer converting =
      match (binder.columns declaration.columns).answer converting.state with
      | (.ok columns, state) =>
        (.ok (), { conversion := converting.conversion.root
                     (.createTable declaration.table columns declaration.ifNotExists), state })
      | (.error error, state) => (.error error, { converting with state }) := by
  rw [visitCreateTable, Action.answer_bind, answer_ask]
  rcases (binder.columns declaration.columns).answer converting.state with ⟨_ | _, state⟩ <;> rfl

end Converting

end VideoPlan
