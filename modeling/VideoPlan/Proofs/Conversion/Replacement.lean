import VideoPlan.Proofs.Conversion.Dialogue
import VideoPlan.Proofs.Conversion.Run

/-!
# One binder in place of another

All that a conversion knows of its binder are the answers to its questions. So a binder can be replaced by
another one that does the same about every question; it is enough that it does so from the states in use,
if the answers never lead to other states.

* `sameOn_perform`: a visit comes to the same with either binder;
* `Visit.outcomes_eq`: so does a run of visits, visit by visit.
-/

namespace VideoPlan

variable {σ α : Type}

/-- From states with the property both binders do the same about every question, and what they do leads to
states with the property. -/
def Binder.SameOn (property : σ → Prop) (binder binder' : Binder σ) : Prop :=
  ∀ question, Action.SameOn property (binder.reply question) (binder'.reply question)

namespace Converting

variable {property : σ → Prop} {binder binder' : Binder σ}

/-- The state of the binder has the property. -/
def Over (property : σ → Prop) (converting : Converting σ) : Prop :=
  property converting.state

/-! ## Steps -/

theorem sameOn_ask {action action' : Action σ α} (same : Action.SameOn property action action') :
    Action.SameOn (Over property) (ask action) (ask action') := by
  intro converting holds
  obtain ⟨answers, after⟩ := same converting.state holds
  rw [answer_ask, answer_ask, ← answers]
  exact ⟨rfl, after⟩

/-- What leaves the state of the binder as it is does not depend on the binder. -/
theorem sameOn_of_unchanged {action : Action (Converting σ) α}
    (unchanged : ∀ converting, (action.answer converting).2.state = converting.state) :
    Action.SameOn (Over property) action action := by
  refine Action.Keeps.sameOn fun converting holds => ?_
  unfold Over
  rw [unchanged converting]
  exact holds

theorem sameOn_ofExcept (result : Except Error α) :
    Action.SameOn (Over property) (Action.ofExcept result : Action (Converting σ) α)
      (Action.ofExcept result) :=
  sameOn_of_unchanged fun _ => by rw [Action.answer_ofExcept]

/-! ## Visits -/

section

variable (same : binder.SameOn property binder')

include same

theorem sameOn_dataset (table : TableRef) :
    Action.SameOn (Over property) (dataset binder table) (dataset binder' table) := by
  unfold dataset
  refine (sameOn_ask (same (.dataset table))).bind fun found => ?_
  cases found <;> exact sameOn_of_unchanged fun _ => rfl

theorem sameOn_visitTable (table : TableRef) :
    Action.SameOn (Over property) (visitTable binder table) (visitTable binder' table) := by
  unfold visitTable
  exact (sameOn_dataset same table).bind fun dataset => sameOn_of_unchanged fun _ => rfl

theorem sameOn_visitProjection (items : List Sql.SelectItem) :
    Action.SameOn (Over property) (visitProjection binder items) (visitProjection binder' items) := by
  unfold visitProjection
  refine .bind (sameOn_of_unchanged fun _ => rfl) fun scope => ?_
  exact (sameOn_ask (same (.projection items scope))).bind fun targets =>
    sameOn_of_unchanged fun _ => rfl

theorem sameOn_visitPredicate (predicate : Sql.Expr) :
    Action.SameOn (Over property) (visitPredicate binder predicate)
      (visitPredicate binder' predicate) := by
  unfold visitPredicate
  refine .bind (sameOn_of_unchanged fun _ => rfl) fun scope => ?_
  exact (sameOn_ask (same (.predicate predicate scope))).bind fun bound =>
    sameOn_of_unchanged fun _ => rfl

theorem sameOn_visitSelect (statement : SelectStatement) :
    Action.SameOn (Over property) (visitSelect binder statement) (visitSelect binder' statement) := by
  have nothing : Action.SameOn (Over property) (pure () : Action (Converting σ) Unit) (pure ()) :=
    sameOn_of_unchanged fun _ => rfl
  rw [visitSelect_eq, visitSelect_eq]
  refine .bind ?_ fun _ => .bind ?_ fun _ => ?_
  · cases statement.table with
    | none => exact nothing
    | some table => exact sameOn_visitTable same table
  · cases statement.items with
    | nil => exact nothing
    | cons item items => exact sameOn_visitProjection same (item :: items)
  · cases statement.filter with
    | none => exact nothing
    | some predicate => exact sameOn_visitPredicate same predicate

theorem sameOn_visitCreateUdf (declaration : UdfDeclaration) :
    Action.SameOn (Over property) (visitCreateUdf binder declaration)
      (visitCreateUdf binder' declaration) := by
  unfold visitCreateUdf
  refine (sameOn_ask (same (.parameters declaration.inputs true))).bind fun inputs => ?_
  refine (sameOn_ask (same (.parameters declaration.outputs false))).bind fun outputs => ?_
  exact sameOn_of_unchanged fun _ => rfl

theorem sameOn_visitLoadData (statement : LoadStatement) :
    Action.SameOn (Over property) (visitLoadData binder statement)
      (visitLoadData binder' statement) := by
  unfold visitLoadData
  refine (sameOn_ask (same (.dataset statement.table))).bind fun found => ?_
  cases found with
  | some dataset => exact sameOn_of_unchanged fun _ => rfl
  | none =>
    refine (sameOn_ask (same (.createVideo statement.table.table))).bind fun dataset => ?_
    exact sameOn_of_unchanged fun _ => rfl

theorem sameOn_visitInsert (statement : InsertStatement) :
    Action.SameOn (Over property) (visitInsert binder statement) (visitInsert binder' statement) := by
  unfold visitInsert
  refine (sameOn_dataset same statement.table).bind fun dataset => ?_
  refine .bind (sameOn_of_unchanged fun _ => rfl) fun _ => ?_
  refine (sameOn_ofExcept (targetColumns dataset _ statement.columns)).bind fun columns => ?_
  refine (sameOn_ask (same (.rows statement.rows))).bind fun rows => ?_
  refine (sameOn_ofExcept (checkRows columns.length 1 rows)).bind fun _ => ?_
  exact sameOn_of_unchanged fun _ => rfl

theorem sameOn_visitCreateTable (declaration : TableDeclaration) :
    Action.SameOn (Over property) (visitCreateTable binder declaration)
      (visitCreateTable binder' declaration) := by
  unfold visitCreateTable
  refine (sameOn_ask (same (.columns declaration.columns))).bind fun columns => ?_
  exact sameOn_of_unchanged fun _ => rfl

theorem sameOn_visit (statement : Statement) :
    Action.SameOn (Over property) (visit binder statement) (visit binder' statement) := by
  cases statement with
  | select statement => exact sameOn_visitSelect same statement
  | createUdf declaration => exact sameOn_visitCreateUdf same declaration
  | insert statement => exact sameOn_visitInsert same statement
  | createTable declaration => exact sameOn_visitCreateTable same declaration
  | loadData statement => exact sameOn_visitLoadData same statement
  | unsupported sql => exact sameOn_of_unchanged fun _ => rfl

/-- A visit comes to the same with either binder. -/
theorem sameOn_perform (visit : Visit) :
    Action.SameOn (Over property) (visit.perform binder) (visit.perform binder') := by
  cases visit with
  | whole statement => exact sameOn_visit same statement
  | table ref => exact sameOn_visitTable same ref
  | projection items => exact sameOn_visitProjection same items
  | predicate expr => exact sameOn_visitPredicate same expr
  | select statement => exact sameOn_visitSelect same statement
  | createUdf declaration => exact sameOn_visitCreateUdf same declaration
  | insert statement => exact sameOn_visitInsert same statement
  | createTable declaration => exact sameOn_visitCreateTable same declaration
  | loadData statement => exact sameOn_visitLoadData same statement

end

end Converting

/-! ## Runs -/

namespace Visit

/-- What the visits come to, one after the other: the answer of each and all that it leaves, which is the
plan, the scope and the state of the binder. -/
def outcomes (binder : Binder σ) : List Visit → Converting σ → List (Except Error Unit × Converting σ)
  | [], _ => []
  | visit :: visits, converting =>
    (visit.perform binder).answer converting ::
      outcomes binder visits (visit.after binder converting)

/-- A run of visits comes to the same with either binder, if it starts from a state with the property. -/
theorem outcomes_eq {property : σ → Prop} {binder binder' : Binder σ}
    (same : binder.SameOn property binder') (visits : List Visit) {converting : Converting σ}
    (holds : property converting.state) :
    outcomes binder visits converting = outcomes binder' visits converting := by
  induction visits generalizing converting with
  | nil => rfl
  | cons visit visits ih =>
    obtain ⟨answers, after⟩ := Converting.sameOn_perform same visit converting holds
    have rest : outcomes binder visits (visit.after binder converting) =
        outcomes binder' visits (visit.after binder converting) := ih after
    have left : visit.after binder' converting = visit.after binder converting :=
      congrArg Prod.snd answers.symm
    unfold outcomes
    rw [left, answers, rest]

end Visit

end VideoPlan
