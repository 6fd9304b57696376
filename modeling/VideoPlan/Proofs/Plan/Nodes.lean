import VideoPlan.Plan

/-!
# Nodes of plans

A plan with all the plans below it, and the shape that plans of statements have: each node has one child at
most, and only a filter or a projection, which works on rows, has one. The chain of such a plan lists all
of its nodes.
-/

namespace VideoPlan

/-- Whether operators of this kind work on the rows of another one: filters and projections do, and they
are the layers of a query. -/
def OperatorKind.isLayer : OperatorKind → Bool
  | .filter => true
  | .project => true
  | _ => false

namespace Plan

mutual

/-- The plan with all plans below it, each before those below itself. -/
def nodes : Plan → List Plan
  | .node operator children => .node operator children :: nodesOfAll children

/-- All nodes of the plans. -/
def nodesOfAll : List Plan → List Plan
  | [] => []
  | plan :: plans => plan.nodes ++ nodesOfAll plans

end

/-- Each node has one child at most, and only a layer has one; all other operators are leaves. -/
def Linear (plan : Plan) : Prop :=
  ∀ node ∈ plan.nodes,
    node.children.length ≤ 1 ∧ (node.children ≠ [] → node.operator.kind.isLayer = true)

theorem nodes_leaf (operator : Operator) : (leaf operator).nodes = [leaf operator] := rfl

theorem nodes_node_singleton (operator : Operator) (below : Plan) :
    (node operator [below]).nodes = node operator [below] :: below.nodes := by
  rw [nodes, nodesOfAll, nodesOfAll, List.append_nil]

theorem linear_leaf (operator : Operator) : (leaf operator).Linear := by
  intro plan member
  rw [nodes_leaf, List.mem_singleton] at member
  subst member
  exact ⟨Nat.zero_le 1, fun child => absurd rfl child⟩

/-- A layer on top of a linear plan. -/
theorem Linear.node {operator : Operator} {below : Plan} (layer : operator.kind.isLayer = true)
    (linear : below.Linear) : (Plan.node operator [below]).Linear := by
  intro plan member
  rw [nodes_node_singleton, List.mem_cons] at member
  rcases member with rfl | member
  · exact ⟨Nat.le_refl 1, fun _ => layer⟩
  · exact linear plan member

end Plan

end VideoPlan
