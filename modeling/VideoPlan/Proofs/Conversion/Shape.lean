import VideoPlan.Catalog.Store
import VideoPlan.Proofs.Conversion.Dialogue
import VideoPlan.Proofs.Conversion.Run
import VideoPlan.Proofs.Plan.Nodes

/-!
# Plans and the visits behind them

Whatever visits are made to a conversion, in any order and whether or not they fail, its plan is a chain:
filters and projections on top of one another, and at the bottom whatever was put in place of the plan last.
The plan can be told from the visits alone. Each of them has events, which say what was bound and which
operators became the plan; `Traced` keeps the events of a run, the newest first.

Main statement: `traced_shape`.
-/

namespace VideoPlan

variable {σ : Type}

/-! ## Events -/

/-- What a visit contributes to the plan. -/
inductive Event
  /-- Something was bound and became this operator. -/
  | bound (operator : Operator)
  /-- An operator of this kind took the place of the plan. -/
  | installed (kind : OperatorKind)

namespace Event

/-- What was bound since an operator took the place of the plan, the newest first. -/
def layers : List Event → List Operator
  | .bound operator :: events => operator :: layers events
  | _ => []

/-- The kind of the operator that took the place of the plan last. -/
def root? : List Event → Option OperatorKind
  | .bound _ :: events => root? events
  | .installed kind :: _ => some kind
  | [] => none

theorem eq_nil_iff (events : List Event) : events = [] ↔ layers events = [] ∧ root? events = none := by
  cases events with
  | nil => exact ⟨fun _ => ⟨rfl, rfl⟩, fun _ => rfl⟩
  | cons event events => cases event <;> simp [layers, root?]

end Event

namespace Visit

/-- The visits that a query is made of: those to its clauses, one after the other. -/
def clauses (statement : SelectStatement) : List Visit :=
  (statement.table.map Visit.table).toList ++
    (if statement.items.isEmpty then [] else [.projection statement.items]) ++
    (statement.filter.map Visit.predicate).toList

/-- The single visits that a visit is made of. -/
def parts : Visit → List Visit
  | .whole (.select statement) => clauses statement
  | .whole (.createUdf declaration) => [.createUdf declaration]
  | .whole (.insert statement) => [.insert statement]
  | .whole (.createTable declaration) => [.createTable declaration]
  | .whole (.loadData statement) => [.loadData statement]
  | .whole (.unsupported _) => []
  | .select statement => clauses statement
  | visit => [visit]

/-- Whether the visit is not made of others. -/
def isSingle : Visit → Bool
  | .whole _ => false
  | .select _ => false
  | _ => true

/-- Whether the visit leaves the conversion alone where it fails: a single visit other than an insertion,
which changes the scope as soon as its table is known. -/
def isAtomic : Visit → Bool
  | .insert _ => false
  | visit => visit.isSingle

/-- What a single visit contributes if it succeeds: a projection and a predicate what the binder answers,
any other visit an operator of its own kind in the place of the plan. -/
def event? (binder : Binder σ) (converting : Converting σ) : Visit → Option Event
  | .projection items =>
    match ((binder.projection items converting.conversion.scope).answer converting.state).1 with
    | .ok targets => some (.bound (.project targets))
    | .error _ => none
  | .predicate expr =>
    match ((binder.predicate expr converting.conversion.scope).answer converting.state).1 with
    | .ok condition => some (.bound (.filter condition))
    | .error _ => none
  | .table _ => some (.installed .get)
  | .createUdf _ => some (.installed .createUdf)
  | .insert _ => some (.installed .insert)
  | .createTable _ => some (.installed .createTable)
  | .loadData _ => some (.installed .loadData)
  | .whole _ => none
  | .select _ => none

/-- The events of single visits that are made one after the other up to the first that fails, the newest
first. -/
def eventsOfAll (binder : Binder σ) : List Visit → Converting σ → List Event
  | [], _ => []
  | part :: parts, converting =>
    match (part.perform binder).answer converting with
    | (.ok _, after) => eventsOfAll binder parts after ++ (part.event? binder converting).toList
    | (.error _, _) => []

/-- The events of a visit, the newest first. -/
def events (binder : Binder σ) (visit : Visit) (converting : Converting σ) : List Event :=
  eventsOfAll binder visit.parts converting

/-- Makes visits one after the other. -/
def performAll (binder : Binder σ) : List Visit → Action (Converting σ) Unit
  | [] => pure ()
  | part :: parts => part.perform binder >>= fun _ => performAll binder parts

end Visit

/-- The conversions that come about by visits, with the events of these visits, the newest first. -/
inductive Traced (binder : Binder σ) : List Event → Converting σ → Prop
  | start (state : σ) : Traced binder [] { state }
  | visit {events : List Event} {converting : Converting σ} (visit : Visit) :
      Traced binder events converting →
      Traced binder (visit.events binder converting ++ events) (visit.after binder converting)

/-! ## Plans from events -/

/-- What an event does to the plan: what is bound is a layer on top of it, anything else replaces it. -/
inductive Event.Does : Event → Option Plan → Option Plan → Prop
  | push {operator : Operator} (layer : operator.kind.isLayer = true) (plan : Option Plan) :
      Does (.bound operator) plan (some (.node operator plan.toList))
  | replace {operator : Operator} (noLayer : operator.kind.isLayer = false) (plan : Option Plan) :
      Does (.installed operator.kind) plan (some (.leaf operator))

/-- The plan is the chain that the events tell: the layers on top of an operator of the root's kind. -/
structure Event.Tells (events : List Event) (plan : Option Plan) : Prop where
  layers : ∀ operator ∈ layers events, operator.kind.isLayer = true
  chain : ∃ root : Option Operator, root.map Operator.kind = root? events ∧
    (∀ operator ∈ root, operator.kind.isLayer = false) ∧
    plan = Plan.ofChain (Event.layers events ++ root.toList)

namespace Plan

theorem eq_nil_of_ofChain {operators : List Operator} (none : Plan.ofChain operators = none) :
    operators = [] := by
  cases operators with
  | nil => rfl
  | cons operator operators => cases none

/-- Layers on top of an operator are a linear plan, and its nodes are these operators. The induction is on
the layers, from the outermost down. -/
theorem linear_ofChain {layers : List Operator} {root : Option Operator} {plan : Plan}
    (allLayers : ∀ operator ∈ layers, operator.kind.isLayer = true)
    (chained : Plan.ofChain (layers ++ root.toList) = some plan) :
    plan.Linear ∧ plan.nodes.map Plan.operator = layers ++ root.toList ∧
      plan.chain = (layers ++ root.toList).map Operator.kind := by
  induction layers generalizing plan with
  | nil =>
    cases root with
    | none => cases chained
    | some root =>
      cases chained
      exact ⟨linear_leaf root, rfl, rfl⟩
  | cons operator layers ih =>
    have layer := allLayers operator List.mem_cons_self
    have below := fun other member => allLayers other (List.mem_cons_of_mem operator member)
    rw [List.cons_append, Plan.ofChain] at chained
    cases rest : Plan.ofChain (layers ++ root.toList) with
    | none =>
      -- nothing lies below the layer
      rw [rest] at chained
      cases chained
      rw [List.cons_append, eq_nil_of_ofChain rest]
      exact ⟨linear_leaf operator, rfl, rfl⟩
    | some inner =>
      obtain ⟨linear, operators, chain⟩ := ih below rest
      rw [rest] at chained
      cases chained
      refine ⟨linear.node layer, ?_, ?_⟩
      · show (Plan.node operator [inner]).nodes.map Plan.operator = _
        rw [nodes_node_singleton, List.map_cons, operators]
        rfl
      · show operator.kind :: inner.chain = _
        rw [chain]
        rfl

end Plan

namespace Event

theorem tells_start : Tells [] none where
  layers := fun _ member => nomatch member
  chain := ⟨none, rfl, by simp, rfl⟩

/-- One more event: the induction step of every run. -/
theorem Tells.cons {events : List Event} {plan planned : Option Plan} (tells : Tells events plan)
    {event : Event} (does : event.Does plan planned) : Tells (event :: events) planned := by
  cases does with
  | push layer =>
    obtain ⟨allLayers, root, kind, noLayer, rfl⟩ := tells
    refine ⟨?_, root, kind, noLayer, rfl⟩
    intro other member
    rcases List.mem_cons.mp member with rfl | member
    · exact layer
    · exact allLayers other member
  | @replace operator noLayer =>
    refine ⟨fun _ member => (nomatch member), some operator, rfl, ?_, rfl⟩
    intro other same
    cases same
    exact noLayer

end Event

/-! ## Single visits -/

namespace Converting

/-- What a single visit does, by its answer: its event happens to the plan if it succeeds; if it fails, it
keeps the plan, and unless it is an insertion the scope as well. -/
def Told (binder : Binder σ) (part : Visit) (converting : Converting σ) :
    Except Error Unit × Converting σ → Prop
  | (.ok _, after) =>
    ∃ event, part.event? binder converting = some event ∧
      event.Does converting.conversion.plan after.conversion.plan
  | (.error _, after) =>
    after.conversion.plan = converting.conversion.plan ∧
      (part.isAtomic = true → after.conversion = converting.conversion)

variable (binder : Binder σ) (converting : Converting σ)

/-- A failure that leaves the conversion alone. -/
theorem told_error (part : Visit) (error : Error) (state : σ) :
    Told binder part converting (.error error, { converting with state }) :=
  ⟨rfl, fun _ => rfl⟩

/-- An operator that takes the place of the plan. -/
theorem told_root {part : Visit} (operator : Operator)
    (event : part.event? binder converting = some (.installed operator.kind))
    (noLayer : operator.kind.isLayer = false) (scope : Scope) (state : σ) :
    Told binder part converting
      (.ok (), { conversion := { plan := some (.leaf operator), scope }, state }) :=
  ⟨_, event, .replace noLayer _⟩

/-- An operator that is put on top of the plan. -/
theorem told_push {part : Visit} (operator : Operator)
    (event : part.event? binder converting = some (.bound operator))
    (layer : operator.kind.isLayer = true) (state : σ) :
    Told binder part converting
      (.ok (), { conversion := converting.conversion.push operator, state }) :=
  ⟨_, event, .push layer _⟩

theorem told_insert (statement : InsertStatement) :
    Told binder (.insert statement) converting ((visitInsert binder statement).answer converting) := by
  rw [answer_visitInsert]
  rcases (binder.dataset? statement.table).answer converting.state with ⟨_ | _ | dataset, state⟩
  · exact told_error ..
  · exact told_error ..
  · -- from here on the scope is that of the table, whatever follows
    have stranded (error : Error) (state : σ) : Told binder (.insert statement) converting
        (.error error, { conversion := { converting.conversion with scope := .ofDataset dataset }, state }) :=
      ⟨rfl, fun atomic => nomatch atomic⟩
    dsimp only
    cases targetColumns dataset (.ofDataset dataset) statement.columns with
    | error error => exact stranded error state
    | ok columns =>
      dsimp only
      rcases (binder.rows statement.rows).answer state with ⟨error | rows, state⟩
      · exact stranded error state
      · dsimp only
        cases checkRows columns.length 1 rows with
        | error error => exact stranded error state
        | ok _ => exact told_root binder converting (.insert ..) rfl rfl _ state

/-- What each single visit does, whatever the binder answers. -/
theorem told_single {part : Visit} (single : part.isSingle = true) :
    Told binder part converting ((part.perform binder).answer converting) := by
  cases part with
  | whole statement => cases single
  | select statement => cases single
  | table table =>
    rw [Visit.perform, answer_visitTable]
    rcases (binder.dataset? table).answer converting.state with ⟨_ | _ | dataset, state⟩
    · exact told_error ..
    · exact told_error ..
    · exact told_root binder converting (.get table dataset) rfl rfl _ state
  | projection items =>
    rw [Visit.perform, answer_visitProjection]
    rcases bound : (binder.projection items converting.conversion.scope).answer converting.state
      with ⟨_ | targets, state⟩
    · exact told_error ..
    · exact told_push binder converting (.project targets) (by rw [Visit.event?, bound]) rfl state
  | predicate expr =>
    rw [Visit.perform, answer_visitPredicate]
    rcases bound : (binder.predicate expr converting.conversion.scope).answer converting.state
      with ⟨_ | condition, state⟩
    · exact told_error ..
    · exact told_push binder converting (.filter condition) (by rw [Visit.event?, bound]) rfl state
  | createUdf declaration =>
    rw [Visit.perform, answer_visitCreateUdf]
    rcases (binder.parameters declaration.inputs true).answer converting.state with ⟨_ | inputs, state⟩
    · exact told_error ..
    · dsimp only
      rcases (binder.parameters declaration.outputs false).answer state with ⟨_ | outputs, state⟩
      · exact told_error ..
      · exact told_root binder converting (.createUdf _) rfl rfl _ state
  | insert statement => exact told_insert binder converting statement
  | createTable declaration =>
    rw [Visit.perform, answer_visitCreateTable]
    rcases (binder.columns declaration.columns).answer converting.state with ⟨_ | columns, state⟩
    · exact told_error ..
    · exact told_root binder converting (.createTable ..) rfl rfl _ state
  | loadData statement =>
    rw [Visit.perform, answer_visitLoadData]
    rcases (binder.dataset? statement.table).answer converting.state with ⟨_ | _ | dataset, state⟩
    · exact told_error ..
    · dsimp only
      rcases (binder.createVideo statement.table.table).answer state with ⟨_ | dataset, state⟩
      · exact told_error ..
      · exact told_root binder converting (.loadData ..) rfl rfl _ state
    · exact told_root binder converting (.loadData ..) rfl rfl _ state

end Converting

/-! ## Visits -/

namespace Visit

variable {binder : Binder σ}

theorem isSingle_of_mem_clauses {statement : SelectStatement} {part : Visit}
    (member : part ∈ clauses statement) : part.isSingle = true := by
  obtain ⟨table, items, filter⟩ := statement
  unfold clauses at member
  rw [List.mem_append, List.mem_append] at member
  rcases member with (member | member) | member
  · cases table <;> simp at member
    subst member
    rfl
  · cases items <;> simp at member
    subst member
    rfl
  · cases filter <;> simp at member
    subst member
    rfl

theorem isSingle_of_mem_parts {visit part : Visit} (member : part ∈ visit.parts) :
    part.isSingle = true := by
  cases visit with
  | whole statement =>
    cases statement with
    | select statement => exact isSingle_of_mem_clauses member
    | unsupported sql => cases member
    | _ =>
      obtain rfl := List.mem_singleton.mp member
      rfl
  | select statement => exact isSingle_of_mem_clauses member
  | _ =>
    obtain rfl := List.mem_singleton.mp member
    rfl

/-- A query is visited clause by clause. -/
theorem performAll_clauses (statement : SelectStatement) :
    performAll binder (clauses statement) = Converting.visitSelect binder statement := by
  obtain ⟨table, items, filter⟩ := statement
  rw [Converting.visitSelect_eq]
  unfold clauses
  cases table <;> cases items <;> cases filter <;>
    simp [performAll, Visit.perform, Converting.visitSource, Converting.visitTargets,
      Converting.visitFilter]

/-- A visit leaves what its parts leave, one after the other. -/
theorem after_eq (visit : Visit) (converting : Converting σ) :
    visit.after binder converting = ((performAll binder visit.parts).answer converting).2 := by
  have ofParts {action : Action (Converting σ) Unit} (same : performAll binder visit.parts = action) :
      (action.answer converting).2 = ((performAll binder visit.parts).answer converting).2 := by
    rw [same]
  cases visit with
  | whole statement =>
    cases statement with
    | select statement => exact ofParts (performAll_clauses statement)
    | unsupported sql => rfl
    | _ => exact ofParts bind_pure_unit
  | select statement => exact ofParts (performAll_clauses statement)
  | _ => exact ofParts bind_pure_unit

/-- Single visits made one after the other, by induction on them. -/
theorem tells_performAll {parts : List Visit} (single : ∀ part ∈ parts, part.isSingle = true)
    {converting : Converting σ} {events : List Event}
    (tells : Event.Tells events converting.conversion.plan) :
    Event.Tells (eventsOfAll binder parts converting ++ events)
      ((performAll binder parts).answer converting).2.conversion.plan := by
  induction parts generalizing converting events with
  | nil => exact tells
  | cons part parts ih =>
    have told := Converting.told_single binder converting (single part List.mem_cons_self)
    have others := fun other member => single other (List.mem_cons_of_mem part member)
    rw [performAll, Action.answer_bind, eventsOfAll]
    rcases answered : (part.perform binder).answer converting with ⟨error | _, after⟩ <;>
      rw [answered] at told
    · -- a failure ends the visits and keeps the plan
      rw [← told.1] at tells
      exact tells
    · obtain ⟨event, happened, does⟩ := told
      dsimp only
      rw [happened, List.append_assoc]
      exact ih others (tells.cons does)

/-- A visit to a table, a projection, a predicate or a declaration that fails leaves the conversion alone. -/
theorem conversion_after_of_error {visit : Visit} (atomic : visit.isAtomic = true)
    {converting : Converting σ} {error : Error}
    (failed : ((visit.perform binder).answer converting).1 = .error error) :
    (visit.after binder converting).conversion = converting.conversion := by
  have single : visit.isSingle = true := by
    cases visit with
    | insert statement => cases atomic
    | _ => exact atomic
  have told := Converting.told_single binder converting single
  unfold after
  rcases answered : (visit.perform binder).answer converting with ⟨_ | _, after⟩ <;>
    rw [answered] at told failed
  · exact told.2 atomic
  · cases failed

end Visit

/-! ## Main statement -/

/-- The events of a run tell the plan that it comes to. -/
theorem Traced.tells {binder : Binder σ} {events : List Event} {converting : Converting σ}
    (traced : Traced binder events converting) : Event.Tells events converting.conversion.plan := by
  induction traced with
  | start state => exact Event.tells_start
  | visit visit _ ih =>
    rw [Visit.after_eq]
    exact Visit.tells_performAll (fun _ member => Visit.isSingle_of_mem_parts member) ih

theorem Event.Tells.eq_none_iff {events : List Event} {plan : Option Plan} (tells : Tells events plan) :
    plan = none ↔ events = [] := by
  obtain ⟨root, kind, -, rfl⟩ := tells.chain
  rw [Event.eq_nil_iff, ← kind]
  constructor
  · intro none
    have both := List.append_eq_nil_iff.mp (Plan.eq_nil_of_ofChain none)
    exact ⟨both.1, by rw [Option.toList_eq_nil_iff.mp both.2]; rfl⟩
  · rintro ⟨noLayers, noRoot⟩
    rw [noLayers, Option.map_eq_none_iff.mp noRoot]
    rfl

/-- Over any binder and after any visits there is a plan as soon as anything succeeded. The plan is linear,
its chain lists all of its nodes from the outermost down, and these are: what was bound since an operator
took the place of the plan, the newest first, and that operator. A visit to a table, a projection, a
predicate or a declaration that fails leaves the plan and the scope as they were. -/
theorem traced_shape (binder : Binder σ) :
    (∀ events converting, Traced binder events converting →
      (converting.conversion.plan = none ↔ events = []) ∧
      ∀ plan ∈ converting.conversion.plan,
        plan.Linear ∧
        plan.chain = plan.nodes.map (·.operator.kind) ∧
        (plan.nodes.map Plan.operator).filter (·.kind.isLayer) = Event.layers events ∧
        plan.chain = (Event.layers events).map Operator.kind ++ (Event.root? events).toList) ∧
    ∀ (visit : Visit) (converting : Converting σ) (error : Error), visit.isAtomic = true →
      ((visit.perform binder).answer converting).1 = .error error →
      (visit.after binder converting).conversion = converting.conversion := by
  constructor
  · intro events converting traced
    have tells := traced.tells
    refine ⟨tells.eq_none_iff, fun plan planned => ?_⟩
    obtain ⟨allLayers, root, kind, noLayer, chained⟩ := tells
    obtain ⟨linear, operators, chain⟩ := Plan.linear_ofChain allLayers (chained.symm.trans planned)
    refine ⟨linear, ?_, ?_, ?_⟩
    · rw [chain, ← operators, List.map_map]
      rfl
    · have noRoot : root.toList.filter (·.kind.isLayer) = [] := by
        rw [List.filter_eq_nil_iff]
        intro operator member
        rw [noLayer operator (Option.mem_toList.mp member)]
        exact Bool.false_ne_true
      rw [operators, List.filter_append, noRoot, List.append_nil, List.filter_eq_self]
      exact allLayers
    · rw [chain, List.map_append, ← kind]
      cases root <;> rfl
  · intro visit converting error atomic failed
    exact Visit.conversion_after_of_error atomic failed

/-- A table, a projection of all its columns, a predicate on a column that is not there, a query on a table
that is not there, and a predicate that can be bound: the failures leave no trace. -/
theorem traced_shape_failures :
    let binder := Binder.ofCatalog Catalog.interface
    let state := (((Catalog.interface.findOrCreate (.video "MyVideo")).answer .empty).2)
    let five : Sql.Expr := .constant (.number "5" false)
    let visits : List Visit :=
      [.table { table := "MYVIDEO" },
       .projection [.wildcard ""],
       .predicate (.binary .lt (.ident ⟨"missing", none⟩) five),
       .whole (.select { table := some { table := "Other" }, filter := some five }),
       .predicate (.binary .lt (.ident ⟨"ID", none⟩) five)]
    let converting : Converting Catalog :=
      visits.foldl (fun converting visit => visit.after binder converting) { state }
    ∃ events, Traced binder events converting ∧
      (Event.layers events).map Operator.kind = [.filter, .project] ∧
      ∃ plan ∈ converting.conversion.plan, plan.Linear ∧ plan.chain = [.filter, .project, .get] := by
  intro binder state five visits converting
  have start : Traced binder [] { state } := .start state
  have traced := Traced.visit (.predicate (.binary .lt (.ident ⟨"ID", none⟩) five))
    (.visit (.whole (.select { table := some { table := "Other" }, filter := some five }))
      (.visit (.predicate (.binary .lt (.ident ⟨"missing", none⟩) five))
        (.visit (.projection [.wildcard ""]) (.visit (.table { table := "MYVIDEO" }) start))))
  refine ⟨_, traced, by decide +kernel, ?_⟩
  have planned : converting.conversion.plan.map Plan.chain = some [.filter, .project, .get] := by
    decide +kernel
  obtain ⟨plan, planned, chain⟩ := Option.map_eq_some_iff.mp planned
  obtain ⟨linear, -⟩ := ((traced_shape binder).1 _ _ traced).2 plan planned
  exact ⟨plan, planned, linear, chain⟩

end VideoPlan
