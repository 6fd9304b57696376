import VideoPlan.Proofs.Conversion.Visit

/-!
# Runs of visits

A conversion may be visited any number of times, with statements or with parts of them, in any order, and
it goes on after a visit that fails. `Reached` are the conversions that come about in this way.
-/

namespace VideoPlan

variable {σ : Type}

/-- A visit to a conversion. -/
inductive Visit
  | whole (statement : Statement)
  | table (table : TableRef)
  | projection (items : List Sql.SelectItem)
  | predicate (predicate : Sql.Expr)
  | select (statement : SelectStatement)
  | createUdf (declaration : UdfDeclaration)
  | insert (statement : InsertStatement)
  | createTable (declaration : TableDeclaration)
  | loadData (statement : LoadStatement)

namespace Visit

/-- What the visit does. -/
def perform (binder : Binder σ) : Visit → Action (Converting σ) Unit
  | .whole statement => Converting.visit binder statement
  | .table ref => Converting.visitTable binder ref
  | .projection items => Converting.visitProjection binder items
  | .predicate expr => Converting.visitPredicate binder expr
  | .select statement => Converting.visitSelect binder statement
  | .createUdf declaration => Converting.visitCreateUdf binder declaration
  | .insert statement => Converting.visitInsert binder statement
  | .createTable declaration => Converting.visitCreateTable binder declaration
  | .loadData statement => Converting.visitLoadData binder statement

/-- What the visit leaves, whether or not it fails. -/
def after (binder : Binder σ) (visit : Visit) (converting : Converting σ) : Converting σ :=
  ((visit.perform binder).answer converting).2

/-- The insertion that is visited, if it is one. -/
def insertion? : Visit → Option InsertStatement
  | .insert statement => some statement
  | .whole (.insert statement) => some statement
  | _ => none

/-- The visit is an insertion that finds its table and fails after that. -/
def StrandsInsertion (binder : Binder σ) (visit : Visit) (converting : Converting σ) : Prop :=
  ∃ statement ∈ visit.insertion?,
    (∃ dataset, ((binder.dataset? statement.table).answer converting.state).1 = .ok (some dataset)) ∧
    ∃ error, ((Converting.visitInsert binder statement).answer converting).1 = .error error

end Visit

/-- The conversions that come about by visits, each of them one that is admitted where it is made. -/
inductive Reached (binder : Binder σ) (Admitted : Visit → Converting σ → Prop) :
    Converting σ → Prop
  | start (state : σ) : Reached binder Admitted { state }
  | visit {converting : Converting σ} (visit : Visit) :
      Reached binder Admitted converting → Admitted visit converting →
      Reached binder Admitted (visit.after binder converting)

end VideoPlan
