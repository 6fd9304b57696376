import VideoPlan.Plan
import VideoPlan.Proofs.Expr.Columns

/-!
# Columns of plans

The columns that the operators of a plan refer to, and the operator at the bottom of a plan, where its rows
come from.
-/

namespace VideoPlan

/-- The columns that an operator on rows refers to: those of a predicate or of targets. -/
def Operator.columns : Operator → List Column
  | .filter predicate => predicate.columns
  | .project targets => Expr.columnsOfAll targets
  | _ => []

namespace Plan

mutual

/-- The columns that filters and projections anywhere in the plan refer to. -/
def columns : Plan → List Column
  | .node operator children => operator.columns ++ columnsOfAll children

/-- The columns that the plans refer to. -/
def columnsOfAll : List Plan → List Column
  | [] => []
  | plan :: plans => plan.columns ++ columnsOfAll plans

end

mutual

/-- The operator at the bottom of the plan, through the first child of each. -/
def bottom : Plan → Operator
  | .node operator children => firstBottom operator children

/-- The operator at the bottom of the first of the plans below `operator`, which is the bottom if there
are none. -/
def firstBottom (operator : Operator) : List Plan → Operator
  | [] => operator
  | plan :: _ => plan.bottom

end

theorem columns_leaf (operator : Operator) : (leaf operator).columns = operator.columns :=
  List.append_nil operator.columns

theorem columns_node_singleton (operator : Operator) (below : Plan) :
    (node operator [below]).columns = operator.columns ++ below.columns := by
  rw [columns, columnsOfAll, columnsOfAll, List.append_nil]

end Plan

end VideoPlan
