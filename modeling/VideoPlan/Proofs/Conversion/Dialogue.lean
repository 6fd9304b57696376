import VideoPlan.Binder.Recording
import VideoPlan.Proofs.Conversion.Insertion
import VideoPlan.Proofs.Conversion.Visit

/-!
# The dialogue between a conversion and its binder

Planning a statement is a dialogue: a conversion asks its binder one question after the other, each with
all that it hands over, and what comes next depends on the answer. `Dialogue.ofStatement` writes down, for
each statement, which questions are asked in which order and which plan comes out of the answers; it knows
neither states nor binders.

Main statement: `visit_follows_dialogue`. Whatever the binder answers, and whether or not its answers
depend on what was asked before, a new conversion has exactly this dialogue with it, and the dialogue ends
with the first question that is not answered, whose error is the answer to the statement.
-/

namespace VideoPlan

variable {σ α : Type}

/-! ## Questions and dialogues -/

/-- A question to a binder, with all that it hands over. -/
inductive Question
  | dataset (table : TableRef)
  | predicate (predicate : Sql.Expr) (scope : Scope)
  | projection (items : List Sql.SelectItem) (scope : Scope)
  | rows (rows : List (List Sql.Expr))
  | parameters (definitions : List ColumnDefinition) (isInput : Bool)
  | columns (definitions : List ColumnDefinition)
  | createVideo (name : String)

namespace Question

/-- What an answer to the question gives. -/
abbrev Answer : Question → Type
  | .dataset _ => Option Dataset
  | .predicate _ _ => Expr
  | .projection _ _ => List Expr
  | .rows _ => List (List Expr)
  | .parameters _ _ => List UdfParameter
  | .columns _ => List Column
  | .createVideo _ => Dataset

/-- The question as a recording binder keeps it. -/
def call : Question → BinderCall
  | .dataset table => .dataset table.text
  | .predicate _ scope => .predicate scope.size
  | .projection items scope => .projection items.length scope.size
  | .rows values => .rows values.length
  | .parameters definitions isInput => .parameters definitions.length isInput
  | .columns definitions => .columns definitions.length
  | .createVideo name => .createVideo name

end Question

/-- What a binder does about a question. -/
def Binder.reply (binder : Binder σ) : (question : Question) → Action σ question.Answer
  | .dataset table => binder.dataset? table
  | .predicate predicate scope => binder.predicate predicate scope
  | .projection items scope => binder.projection items scope
  | .rows rows => binder.rows rows
  | .parameters definitions isInput => binder.parameters definitions isInput
  | .columns definitions => binder.columns definitions
  | .createVideo name => binder.createVideo name

/-- A question and what was answered. -/
structure Exchange where
  question : Question
  answer : Except Error question.Answer

/-- A dialogue: a result, or a question and how to go on from each answer. -/
inductive Dialogue (α : Type)
  | done (result : Except Error α)
  | ask (question : Question) (next : question.Answer → Dialogue α)

/-- What a dialogue has come to. -/
structure Talk (σ α : Type) where
  exchanges : List Exchange
  result : Except Error α
  state : σ

/-- Has a dialogue with a binder. A question that is not answered ends it. -/
def Dialogue.talk (binder : Binder σ) : Dialogue α → σ → Talk σ α
  | .done result, state => { exchanges := [], result, state }
  | .ask question next, state =>
    match (binder.reply question).answer state with
    | (.error error, after) =>
      { exchanges := [⟨question, .error error⟩], result := .error error, state := after }
    | (.ok answer, after) =>
      let rest := (next answer).talk binder after
      { rest with exchanges := ⟨question, .ok answer⟩ :: rest.exchanges }

/-! ## The dialogue about a statement -/

/-- The chain of these operators, from the outermost down. -/
def Plan.ofChain : List Operator → Option Plan
  | [] => none
  | operator :: below => some (.node operator (ofChain below).toList)

/-- The operators of a query, from the outermost down: those of its clauses that are there. -/
def Operator.ofQuery (source : Option (TableRef × Dataset)) (targets : Option (List Expr))
    (predicate : Option Expr) : List Operator :=
  predicate.toList.map .filter ++ targets.toList.map .project ++
    source.toList.map fun (table, dataset) => .get table dataset

/-- The columns that a query may name. -/
def Scope.ofSource : Option (TableRef × Dataset) → Scope
  | some (_, dataset) => .ofDataset dataset
  | none => .empty

namespace Dialogue

/-- Asks for a dataset, without which there is no plan. -/
def needDataset (table : TableRef) (next : Dataset → Dialogue α) : Dialogue α :=
  .ask (.dataset table) fun
    | some dataset => next dataset
    | none => .done (.error (.tableNotFound table.table))

/-- Asks for the dataset of the table of a query, if it has one. -/
def askSource (table : Option TableRef) (next : Option (TableRef × Dataset) → Dialogue α) :
    Dialogue α :=
  match table with
  | some table => needDataset table fun dataset => next (some (table, dataset))
  | none => next none

/-- Asks for the targets of a query, if it has any. -/
def askTargets (items : List Sql.SelectItem) (scope : Scope)
    (next : Option (List Expr) → Dialogue α) : Dialogue α :=
  match items with
  | [] => next none
  | item :: items => .ask (.projection (item :: items) scope) fun targets => next (some targets)

/-- Asks for the predicate of a query, if it has one. -/
def askPredicate (predicate : Option Sql.Expr) (scope : Scope) (next : Option Expr → Dialogue α) :
    Dialogue α :=
  match predicate with
  | some predicate => .ask (.predicate predicate scope) fun predicate => next (some predicate)
  | none => next none

/-- A query: its table, then its targets, then its predicate, both in the scope of that table. -/
def ofSelect (statement : SelectStatement) : Dialogue (Option Plan) :=
  askSource statement.table fun source =>
  askTargets statement.items (.ofSource source) fun targets =>
  askPredicate statement.filter (.ofSource source) fun predicate =>
  .done (.ok (Plan.ofChain (Operator.ofQuery source targets predicate)))

/-- A new function: its inputs, then its outputs. -/
def ofCreateUdf (declaration : UdfDeclaration) : Dialogue (Option Plan) :=
  .ask (.parameters declaration.inputs true) fun inputs =>
  .ask (.parameters declaration.outputs false) fun outputs =>
  .done (.ok (some (.leaf (.createUdf
    { name := declaration.name, ifNotExists := declaration.ifNotExists, inputs, outputs,
      implementation := declaration.implementation, udfType := declaration.udfType }))))

/-- An insertion: its table, and its rows only if each name that it lists has a column. -/
def ofInsert (statement : InsertStatement) : Dialogue (Option Plan) :=
  needDataset statement.table fun dataset =>
    let scope := Scope.ofDataset dataset
    match statement.columns.find? fun name => !scope.contains name with
    | some name => .done (.error (.columnNotFound name))
    | none =>
      let columns :=
        if statement.columns.isEmpty then dataset.columns
        else statement.columns.filterMap scope.find?
      .ask (.rows statement.rows) fun rows =>
      match Converting.misfit? columns.length 1 rows with
      | some (values, row) =>
        .done (.error (.bind (.rowLength row values.length columns.length)))
      | none => .done (.ok (some (.leaf (.insert statement.table dataset.id columns rows))))

/-- A new table: its columns, and nothing about the table. -/
def ofCreateTable (declaration : TableDeclaration) : Dialogue (Option Plan) :=
  .ask (.columns declaration.columns) fun columns =>
  .done (.ok (some (.leaf
    (.createTable declaration.table columns declaration.ifNotExists))))

/-- A file: its table, and a new video exactly if the table is not there. -/
def ofLoadData (statement : LoadStatement) : Dialogue (Option Plan) :=
  .ask (.dataset statement.table) fun
    | some dataset => .done (.ok (some (.leaf (.loadData dataset statement.path))))
    | none =>
      .ask (.createVideo statement.table.table) fun dataset =>
      .done (.ok (some (.leaf (.loadData dataset statement.path))))

/-- The dialogue about a statement. -/
def ofStatement : Statement → Dialogue (Option Plan)
  | .select statement => ofSelect statement
  | .createUdf declaration => ofCreateUdf declaration
  | .insert statement => ofInsert statement
  | .createTable declaration => ofCreateTable declaration
  | .loadData statement => ofLoadData statement
  | .unsupported sql => .done (.error (.unsupportedStatement sql))

end Dialogue

/-! ## Conversions follow the dialogue -/

namespace Converting

/-- What a visit comes to: the plan that it leaves if it succeeds, and the state of the binder. -/
def outcome (visit : Action (Converting σ) Unit) (converting : Converting σ) :
    Except Error (Option Plan) × σ :=
  let visited := visit.answer converting
  (visited.1.map fun _ => visited.2.conversion.plan, visited.2.state)

/-- What a dialogue comes to. -/
def told (binder : Binder σ) (dialogue : Dialogue α) (state : σ) : Except Error α × σ :=
  ((dialogue.talk binder state).result, (dialogue.talk binder state).state)

@[simp] theorem told_done (binder : Binder σ) (result : Except Error α) (state : σ) :
    told binder (.done result) state = (result, state) := rfl

theorem told_ask (binder : Binder σ) (question : Question)
    (next : question.Answer → Dialogue α) (state : σ) :
    told binder (.ask question next) state =
      match (binder.reply question).answer state with
      | (.error error, after) => (.error error, after)
      | (.ok answer, after) => told binder (next answer) after := by
  unfold told
  rw [Dialogue.talk]
  rcases (binder.reply question).answer state with ⟨_ | _, after⟩ <;> rfl

theorem told_needDataset (binder : Binder σ) (table : TableRef) (next : Dataset → Dialogue α)
    (state : σ) :
    told binder (.needDataset table next) state =
      match (binder.dataset? table).answer state with
      | (.error error, after) => (.error error, after)
      | (.ok none, after) => (.error (.tableNotFound table.table), after)
      | (.ok (some dataset), after) => told binder (next dataset) after := by
  unfold Dialogue.needDataset
  rw [told_ask]
  dsimp only [Binder.reply]
  rcases (binder.dataset? table).answer state with ⟨_ | _ | _, after⟩ <;> rfl

/-- A sequence of visits comes to what its second visit comes to, unless the first one fails. -/
theorem outcome_bind (first rest : Action (Converting σ) Unit) (converting : Converting σ) :
    outcome (first >>= fun _ => rest) converting =
      match first.answer converting with
      | (.error error, after) => (.error error, after.state)
      | (.ok _, after) => outcome rest after := by
  unfold outcome
  rw [Action.answer_bind]
  rcases first.answer converting with ⟨_ | _, after⟩ <;> rfl

variable (binder : Binder σ) (state : σ)

/-! ### Queries, clause by clause -/

/-- The conversion of a query whose table and targets have been visited. -/
def queried (source : Option (TableRef × Dataset)) (targets : Option (List Expr)) : Conversion where
  plan := Plan.ofChain (Operator.ofQuery source targets none)
  scope := .ofSource source

theorem outcome_visitFilter (source : Option (TableRef × Dataset)) (targets : Option (List Expr))
    (predicate : Option Sql.Expr) :
    outcome (visitFilter binder predicate) { conversion := queried source targets, state } =
      told binder (.askPredicate predicate (.ofSource source) fun predicate =>
        .done (.ok (Plan.ofChain (Operator.ofQuery source targets predicate)))) state := by
  cases predicate with
  | none => rfl
  | some predicate =>
    unfold outcome visitFilter Dialogue.askPredicate
    rw [answer_visitPredicate, told_ask]
    dsimp only [Binder.reply, queried]
    rcases (binder.predicate predicate (.ofSource source)).answer state with ⟨_ | _, state⟩ <;> rfl

theorem outcome_visitTargets (source : Option (TableRef × Dataset)) (items : List Sql.SelectItem)
    (predicate : Option Sql.Expr) :
    outcome (visitTargets binder items >>= fun _ => visitFilter binder predicate)
        { conversion := queried source none, state } =
      told binder (.askTargets items (.ofSource source) fun targets =>
        .askPredicate predicate (.ofSource source) fun predicate =>
        .done (.ok (Plan.ofChain (Operator.ofQuery source targets predicate)))) state := by
  rw [outcome_bind]
  cases items with
  -- without items there is no projection, and the filter stands on the table
  | nil => exact outcome_visitFilter binder state source none predicate
  | cons item items =>
    unfold Dialogue.askTargets
    rw [visitTargets_cons, answer_visitProjection, told_ask]
    dsimp only [Binder.reply, queried]
    rcases (binder.projection (item :: items) (.ofSource source)).answer state
      with ⟨_ | targets, state⟩
    · rfl
    · exact outcome_visitFilter binder state source (some targets) predicate

theorem outcome_visitSelect (statement : SelectStatement) :
    outcome (visitSelect binder statement) { state } =
      told binder (.ofSelect statement) state := by
  rw [visitSelect_eq, outcome_bind]
  unfold Dialogue.ofSelect
  cases statement.table with
  | none => exact outcome_visitTargets binder state none statement.items statement.filter
  | some table =>
    unfold visitSource Dialogue.askSource
    rw [answer_visitTable, told_needDataset]
    dsimp only
    rcases (binder.dataset? table).answer state with ⟨_ | _ | dataset, state⟩
    · rfl
    · rfl
    · exact outcome_visitTargets binder state (some (table, dataset)) statement.items
        statement.filter

/-! ### Other statements -/

theorem outcome_visitCreateUdf (declaration : UdfDeclaration) :
    outcome (visitCreateUdf binder declaration) { state } =
      told binder (.ofCreateUdf declaration) state := by
  unfold outcome Dialogue.ofCreateUdf
  rw [answer_visitCreateUdf, told_ask]
  dsimp only [Binder.reply]
  rcases (binder.parameters declaration.inputs true).answer state with ⟨_ | inputs, state⟩
  · rfl
  · dsimp only
    rw [told_ask]
    dsimp only [Binder.reply]
    rcases (binder.parameters declaration.outputs false).answer state with ⟨_ | outputs, state⟩ <;>
      rfl

theorem outcome_visitLoadData (statement : LoadStatement) :
    outcome (visitLoadData binder statement) { state } =
      told binder (.ofLoadData statement) state := by
  unfold outcome Dialogue.ofLoadData
  rw [answer_visitLoadData, told_ask]
  dsimp only [Binder.reply]
  rcases (binder.dataset? statement.table).answer state with ⟨_ | _ | dataset, state⟩
  · rfl
  · dsimp only
    rw [told_ask]
    dsimp only [Binder.reply]
    rcases (binder.createVideo statement.table.table).answer state with ⟨_ | _, state⟩ <;> rfl
  · rfl

theorem outcome_visitCreateTable (declaration : TableDeclaration) :
    outcome (visitCreateTable binder declaration) { state } =
      told binder (.ofCreateTable declaration) state := by
  unfold outcome Dialogue.ofCreateTable
  rw [answer_visitCreateTable, told_ask]
  dsimp only [Binder.reply]
  rcases (binder.columns declaration.columns).answer state with ⟨_ | _, state⟩ <;> rfl

theorem outcome_visitInsert (statement : InsertStatement) :
    outcome (visitInsert binder statement) { state } =
      told binder (.ofInsert statement) state := by
  unfold outcome Dialogue.ofInsert
  rw [answer_visitInsert, told_needDataset]
  dsimp only
  rcases (binder.dataset? statement.table).answer state with ⟨_ | _ | dataset, state⟩
  · rfl
  · rfl
  · dsimp only
    rw [targetColumns_eq]
    cases statement.columns.find? fun name => !(Scope.ofDataset dataset).contains name with
    | some name => rfl
    | none =>
      dsimp only
      rw [told_ask]
      dsimp only [Binder.reply]
      rcases (binder.rows statement.rows).answer state with ⟨_ | rows, state⟩
      · rfl
      · dsimp only
        rw [checkRows_eq]
        cases misfit? _ 1 rows <;> rfl

/-- A new conversion comes to what the dialogue about the statement comes to. -/
theorem outcome_visit (statement : Statement) :
    outcome (visit binder statement) { state } = told binder (.ofStatement statement) state := by
  cases statement with
  | select statement => exact outcome_visitSelect binder state statement
  | createUdf declaration => exact outcome_visitCreateUdf binder state declaration
  | insert statement => exact outcome_visitInsert binder state statement
  | createTable declaration => exact outcome_visitCreateTable binder state declaration
  | loadData statement => exact outcome_visitLoadData binder state statement
  | unsupported sql => rfl

end Converting

/-! ## Binders that keep the dialogue -/

/-- A state with all that was asked and answered. -/
structure Logged (σ : Type) where
  exchanges : List Exchange := []
  state : σ

/-- Answers the question by the action and keeps both. -/
def Logged.note (question : Question) (action : Action σ question.Answer) :
    Action (Logged σ) question.Answer :=
  ExceptT.mk fun logged =>
    let (answer, state) := action.answer logged.state
    (answer, { exchanges := logged.exchanges ++ [⟨question, answer⟩], state })

/-- The binder that answers like `binder` and keeps the exchanges. -/
def Binder.logging (binder : Binder σ) : Binder (Logged σ) where
  dataset? table := Logged.note (.dataset table) (binder.dataset? table)
  predicate predicate scope :=
    Logged.note (.predicate predicate scope) (binder.predicate predicate scope)
  projection items scope := Logged.note (.projection items scope) (binder.projection items scope)
  rows rows := Logged.note (.rows rows) (binder.rows rows)
  parameters definitions isInput :=
    Logged.note (.parameters definitions isInput) (binder.parameters definitions isInput)
  columns definitions := Logged.note (.columns definitions) (binder.columns definitions)
  createVideo name := Logged.note (.createVideo name) (binder.createVideo name)

theorem Logged.answer_note (question : Question) (action : Action σ question.Answer)
    (logged : Logged σ) :
    (note question action).answer logged =
      ((action.answer logged.state).1,
        { exchanges := logged.exchanges ++ [⟨question, (action.answer logged.state).1⟩],
          state := (action.answer logged.state).2 }) := rfl

theorem Recorded.answer_ask (call : BinderCall) (action : Action σ α) (recorded : Recorded σ) :
    (ask call action).answer recorded =
      ((action.answer recorded.state).1,
        { calls := recorded.calls ++ [call], state := (action.answer recorded.state).2 }) := rfl

theorem Binder.reply_logging (binder : Binder σ) (question : Question) :
    binder.logging.reply question = Logged.note question (binder.reply question) := by
  cases question <;> rfl

theorem Binder.reply_recording (binder : Binder σ) (question : Question) :
    binder.recording.reply question = Recorded.ask question.call (binder.reply question) := by
  cases question <;> rfl

namespace Dialogue

variable (binder : Binder σ)

/-- A logging binder has the same dialogue and keeps its exchanges. -/
theorem told_logging (dialogue : Dialogue α) (exchanges : List Exchange) (state : σ) :
    Converting.told binder.logging dialogue { exchanges, state } =
      ((dialogue.talk binder state).result,
        { exchanges := exchanges ++ (dialogue.talk binder state).exchanges,
          state := (dialogue.talk binder state).state }) := by
  induction dialogue generalizing exchanges state with
  | done result => simp [talk]
  | ask question next ih =>
    rw [Converting.told_ask, Binder.reply_logging, Logged.answer_note, talk]
    rcases (binder.reply question).answer state with ⟨error | answer, after⟩
    · rfl
    · dsimp only
      rw [ih, List.append_assoc]
      rfl

/-- A recording binder has the same dialogue and keeps its questions, with sizes in place of large
arguments. -/
theorem told_recording (dialogue : Dialogue α) (calls : List BinderCall) (state : σ) :
    Converting.told binder.recording dialogue { calls, state } =
      ((dialogue.talk binder state).result,
        { calls := calls ++ (dialogue.talk binder state).exchanges.map (·.question.call),
          state := (dialogue.talk binder state).state }) := by
  induction dialogue generalizing calls state with
  | done result => simp [talk]
  | ask question next ih =>
    rw [Converting.told_ask, Binder.reply_recording, Recorded.answer_ask, talk]
    rcases (binder.reply question).answer state with ⟨error | answer, after⟩
    · rfl
    · dsimp only
      rw [ih, List.map_cons, List.append_assoc]
      rfl

/-- Nothing is asked behind a question that is not answered. -/
theorem isOk_of_mem_dropLast (dialogue : Dialogue α) (state : σ) :
    ∀ exchange ∈ (dialogue.talk binder state).exchanges.dropLast, exchange.answer.isOk = true := by
  induction dialogue generalizing state with
  | done result => intro exchange member; cases member
  | ask question next ih =>
    rw [talk]
    rcases (binder.reply question).answer state with ⟨error | answer, after⟩
    · intro exchange member
      cases member
    · intro exchange member
      dsimp only at member
      -- this exchange is not dropped exactly if there are others behind it
      cases rest : ((next answer).talk binder after).exchanges with
      | nil => rw [rest] at member; cases member
      | cons first others =>
        rw [rest, List.dropLast_cons_cons] at member
        rcases List.mem_cons.mp member with rfl | member
        · rfl
        · exact ih answer after exchange (rest ▸ member)

/-- A question that is not answered is the last one, and its error is the result. -/
theorem result_of_getLast?_error (dialogue : Dialogue α) (state : σ) :
    ∀ exchange ∈ (dialogue.talk binder state).exchanges.getLast?, ∀ error,
      exchange.answer = .error error → (dialogue.talk binder state).result = .error error := by
  induction dialogue generalizing state with
  | done result => intro exchange last; cases last
  | ask question next ih =>
    rw [talk]
    rcases (binder.reply question).answer state with ⟨error | answer, after⟩
    · intro exchange last error' failed
      cases Option.some.inj last
      cases failed
      rfl
    · intro exchange last error' failed
      dsimp only at last ⊢
      cases rest : ((next answer).talk binder after).exchanges with
      -- the last exchange is this one, and it was answered
      | nil =>
        rw [rest] at last
        cases Option.some.inj last
        cases failed
      | cons first others =>
        rw [rest, List.getLast?_cons_cons] at last
        exact ih answer after exchange (rest ▸ last) error' failed

end Dialogue

/-! ## Main statement -/

/-- A new conversion of a statement has exactly the dialogue about that statement with its binder, whatever
the binder answers: it asks these questions with these arguments in this order, and what it answers and the
plan that it leaves are the result of the dialogue. The first question that is not answered is the last
one, and its error is the answer to the statement. -/
theorem visit_follows_dialogue (binder : Binder σ) (statement : Statement) (state : σ) :
    let talk := (Dialogue.ofStatement statement).talk binder state
    Converting.outcome (Converting.visit binder statement) { state } = (talk.result, talk.state) ∧
    Converting.outcome (Converting.visit binder.logging statement) { state := { state } } =
      (talk.result, { exchanges := talk.exchanges, state := talk.state }) ∧
    Converting.outcome (Converting.visit binder.recording statement) { state := { state } } =
      (talk.result, { calls := talk.exchanges.map (·.question.call), state := talk.state }) ∧
    (∀ exchange ∈ talk.exchanges.dropLast, exchange.answer.isOk = true) ∧
    (∀ exchange ∈ talk.exchanges.getLast?, ∀ error,
      exchange.answer = .error error → talk.result = .error error) := by
  refine ⟨Converting.outcome_visit binder state statement, ?_, ?_,
    Dialogue.isOk_of_mem_dropLast binder _ state, Dialogue.result_of_getLast?_error binder _ state⟩
  · rw [Converting.outcome_visit, Dialogue.told_logging]
    rfl
  · rw [Converting.outcome_visit, Dialogue.told_recording]
    rfl

end VideoPlan
