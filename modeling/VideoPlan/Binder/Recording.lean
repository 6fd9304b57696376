import VideoPlan.Binder

/-!
# Recording what is asked of a binder

A recording binder answers like another one and keeps a list of the questions, in the order in which they
were asked. Of large arguments it keeps the sizes.
-/

namespace VideoPlan

/-- A question to a binder. -/
inductive BinderCall
  | dataset (table : String)
  | predicate (scopeSize : Nat)
  | projection (items scopeSize : Nat)
  | rows (count : Nat)
  | parameters (count : Nat) (isInput : Bool)
  | columns (count : Nat)
  | createVideo (name : String)
deriving DecidableEq

/-- A state with the questions asked so far. -/
structure Recorded (σ : Type) where
  calls : List BinderCall := []
  state : σ

/-- Notes the question, then asks it. -/
def Recorded.ask (call : BinderCall) (action : Action σ α) : Action (Recorded σ) α :=
  ExceptT.mk fun recorded =>
    let (answer, state) := action.answer recorded.state
    (answer, { calls := recorded.calls ++ [call], state })

/-- The binder that notes what it is asked and answers like `binder`. -/
def Binder.recording (binder : Binder σ) : Binder (Recorded σ) where
  dataset? table := Recorded.ask (.dataset table.text) (binder.dataset? table)
  predicate expr scope := Recorded.ask (.predicate scope.size) (binder.predicate expr scope)
  projection items scope :=
    Recorded.ask (.projection items.length scope.size) (binder.projection items scope)
  rows rows := Recorded.ask (.rows rows.length) (binder.rows rows)
  parameters definitions isInput :=
    Recorded.ask (.parameters definitions.length isInput) (binder.parameters definitions isInput)
  columns definitions :=
    Recorded.ask (.columns definitions.length) (binder.columns definitions)
  createVideo name := Recorded.ask (.createVideo name) (binder.createVideo name)

end VideoPlan
