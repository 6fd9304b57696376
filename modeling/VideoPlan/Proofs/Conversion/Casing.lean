import VideoPlan.Proofs.Catalog.Extension
import VideoPlan.Proofs.Conversion.Planning
import VideoPlan.Proofs.Expr.Casing

/-!
# Statements in another case

A table, its columns and the functions that are called may be named in any case. Two queries, or two
insertions, that differ in nothing else are followed through the same steps: the table is the same dataset
(`Catalog.find?_congr`), so the scope is the same, and whatever is bound in it agrees.

Main statement: `plan_ignores_case`.
-/

namespace VideoPlan

open Converting (told)

/-! ## The statements -/

/-- Two queries differ at most in the case of names. -/
structure SelectStatement.Recased (statement statement' : SelectStatement) : Prop where
  table : Option.Rel (fun table table' => SameName table.table table'.table)
    statement.table statement'.table
  items : List.Forall₂ Sql.SelectItem.Recased statement.items statement'.items
  filter : Option.Rel Sql.Recased statement.filter statement'.filter

/-- Two insertions differ at most in the case of names. -/
structure InsertStatement.Recased (statement statement' : InsertStatement) : Prop where
  table : SameName statement.table.table statement'.table.table
  columns : List.Forall₂ SameName statement.columns statement'.columns
  rows : List.Forall₂ Sql.AllRecased statement.rows statement'.rows

/-- Two queries or two insertions differ at most in the case of names. -/
inductive Statement.Recased : Statement → Statement → Prop
  | select {statement statement' : SelectStatement} :
    statement.Recased statement' → Recased (.select statement) (.select statement')
  | insert {statement statement' : InsertStatement} :
    statement.Recased statement' → Recased (.insert statement) (.insert statement')

/-! ## The plans -/

/-- The operator with another name of its table. -/
def Operator.withTable (table : TableRef) : Operator → Operator
  | .get _ dataset => .get table dataset
  | .insert _ datasetId columns rows => .insert table datasetId columns rows
  | operator => operator

namespace Plan

mutual

/-- The plan with another name of the tables in it. -/
def withTable (table : TableRef) : Plan → Plan
  | .node operator children => .node (operator.withTable table) (allWithTable table children)

/-- The plans with another name of the tables in them. -/
def allWithTable (table : TableRef) : List Plan → List Plan
  | [] => []
  | plan :: plans => plan.withTable table :: allWithTable table plans

end

/-- Two plans, if there are any, differ at most in how they name tables. -/
def SameButTable (plan plan' : Option Plan) : Prop :=
  ∀ table, plan.map (withTable table) = plan'.map (withTable table)

end Plan

/-! ## Queries -/

namespace SelectStatement

theorem agree_targets? (scope : Scope) {items items' : List Sql.SelectItem}
    (same : List.Forall₂ Sql.SelectItem.Recased items items') :
    Agree Eq (targets? scope items) (targets? scope items') := by
  have bound := Expr.agree_ofItems (some scope) same
  cases same with
  | nil => exact .refl _
  | cons _ _ => exact bound.mapEq some

theorem agree_predicate? (scope : Scope) {filter filter' : Option Sql.Expr}
    (same : Option.Rel Sql.Recased filter filter') :
    Agree Eq (predicate? scope filter) (predicate? scope filter') := by
  cases same with
  | none => exact .refl _
  | some same => exact (Expr.agree_ofPredicate scope same).mapEq some

/-- Over one dataset, queries that differ in the case of names have the same plan. -/
theorem agree_planOver {statement statement' : SelectStatement} (same : statement.Recased statement')
    {source source' : Option (TableRef × Dataset)}
    (sources : Option.Rel (fun read read' => read.2 = read'.2) source source') :
    Agree Plan.SameButTable (statement.planOver source) (statement'.planOver source') := by
  have scopes : Scope.ofSource source = Scope.ofSource source' := by
    cases sources with
    | none => rfl
    | some same => exact congrArg Scope.ofDataset same
  unfold planOver
  rw [scopes]
  refine (agree_targets? _ same.items).bindEq fun targets => ?_
  refine (agree_predicate? _ same.filter).bindEq fun predicate => .ok fun table => ?_
  cases sources with
  | none => rfl
  | @some read read' same =>
    obtain ⟨ref, dataset⟩ := read
    cases same
    cases predicate <;> cases targets <;> rfl

end SelectStatement

/-! ## Insertions -/

theorem Converting.agree_targetColumns (dataset : Dataset) (scope : Scope) {names names' : List String}
    (same : List.Forall₂ SameName names names') :
    Agree Eq (targetColumns dataset scope names) (targetColumns dataset scope names') := by
  have resolved := Agree.mapM same fun _ _ same => scope.agree_resolve same
  cases same with
  | nil => exact .refl _
  | cons _ _ => exact resolved

/-- Into one dataset, insertions that differ in the case of names have the same plan. -/
theorem InsertStatement.agree_planInto {statement statement' : InsertStatement}
    (same : statement.Recased statement') (dataset : Dataset) :
    Agree Plan.SameButTable (statement.planInto dataset) (statement'.planInto dataset) := by
  unfold planInto
  refine (Converting.agree_targetColumns dataset _ same.columns).bindEq fun columns => ?_
  refine (Expr.agree_ofRows same.rows).bindEq fun rows => ?_
  exact (Agree.refl _).bindEq fun _ => .ok fun table => rfl

/-! ## Main statement -/

/-- Over any catalog, two queries or two insertions that differ at most in the case of the names of their
table, of columns and of functions are both planned by a new conversion, and then the plans differ at most
in how they name the table; or both are refused with errors of one kind. -/
theorem plan_ignores_case (catalog : Catalog) {statement statement' : Statement}
    (same : statement.Recased statement') :
    Agree Plan.SameButTable
      (Converting.outcome (Converting.visit (.ofCatalog Catalog.interface) statement)
        { state := catalog }).1
      (Converting.outcome (Converting.visit (.ofCatalog Catalog.interface) statement')
        { state := catalog }).1 := by
  rw [Converting.outcome_visit, Converting.outcome_visit]
  cases same with
  | @select statement statement' same =>
    have tables := same.table
    unfold Dialogue.ofStatement
    cases reads : statement.table with
    | none =>
      cases reads' : statement'.table with
      | some table' => rw [reads, reads'] at tables; cases tables
      | none =>
        rw [Converting.told_ofSelect_none _ _ reads, Converting.told_ofSelect_none _ _ reads']
        exact SelectStatement.agree_planOver same .none
    | some table =>
      cases reads' : statement'.table with
      | none => rw [reads, reads'] at tables; cases tables
      | some table' =>
        rw [reads, reads'] at tables
        cases tables with | some sameTable => ?_
        rw [Converting.told_ofSelect_some _ _ reads, Converting.told_ofSelect_some _ _ reads',
          Catalog.interface_find?, Catalog.interface_find?, Catalog.find?_congr catalog sameTable]
        cases catalog.find? table'.table with
        | none => exact .error rfl
        | some dataset => exact SelectStatement.agree_planOver same (.some rfl)
  | @insert statement statement' same =>
    unfold Dialogue.ofStatement
    rw [Converting.told_ofInsert, Converting.told_ofInsert, Catalog.interface_find?,
      Catalog.interface_find?, Catalog.find?_congr catalog same.table]
    cases catalog.find? statement'.table.table with
    | none => exact .error rfl
    | some dataset => exact InsertStatement.agree_planInto same dataset

/-- Over a table of frames, a query in small letters and one in capitals differ in nothing but names; the
first has a plan, so the second has the same but for the name of the table. -/
theorem plan_ignores_case_capitals :
    let columns : List Column :=
      [{ name := "id", type := { base := .integer } }, { name := "Data", type := { base := .ndArray } }]
    let catalog := ((Catalog.register "MyVideo" columns).answer .empty).2
    let small : SelectStatement :=
      { table := some { table := "myvideo" }
        items := [.plain (.ident { value := "id" }),
          .aliased (.call [{ value := "area" }] [.ident { value := "data" }] {}) { value := "Area" }]
        filter := some (.binary .lt (.ident { value := "id" }) (.constant (.number "10" false))) }
    let capital : SelectStatement :=
      { table := some { table := "MYVIDEO" }
        items := [.plain (.ident { value := "ID", quote := some '"' }),
          .aliased (.call [{ value := "Area" }] [.ident { value := "DATA" }] {}) { value := "Area" }]
        filter := some (.binary .lt (.ident { value := "Id" }) (.constant (.number "10" false))) }
    let planned (statement : SelectStatement) :=
      (Converting.outcome (Converting.visit (.ofCatalog Catalog.interface) (.select statement))
        { state := catalog }).1
    (planned small).isOk = true ∧ Agree Plan.SameButTable (planned small) (planned capital) := by
  intro columns catalog small capital planned
  have same : small.Recased capital :=
    { table := .some (by unfold SameName; decide +kernel)
      items := .cons (.plain (.ident (by unfold SameName; decide +kernel)))
        (.cons (.aliased _ (.call {} {} (by unfold Sql.SameFunction; decide +kernel)
          (.cons (.ident (by unfold SameName; decide +kernel)) .nil))) .nil)
      filter := .some (.binary _ (.ident (by unfold SameName; decide +kernel)) (.constant _)) }
  exact ⟨by decide +kernel, plan_ignores_case catalog (.select same)⟩

end VideoPlan
