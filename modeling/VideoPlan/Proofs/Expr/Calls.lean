import VideoPlan.Proofs.Expr.Columns
import VideoPlan.Proofs.Expr.Order

/-!
# Calls in expressions

A bound expression calls a function exactly if there is a call among the nodes of the expression as it was
written (`callsFunction_ofSql`). Binding drops no call: parentheses, signs and labels vanish, but what they
stand around stays, and a call that stands where binding does not look, in a form without a meaning, is
refused with it.
-/

namespace VideoPlan

/-! ## Calls as they are written -/

namespace Sql

namespace Expr

/-- Whether the node is a call: of arguments, of a query or without parentheses. -/
def isCall : Expr → Bool
  | .call _ _ _ => true
  | .bareCall _ => true
  | .queryCall _ _ => true
  | _ => false

/-- A function is called in the expression, at any depth. -/
def HasCall (expr : Expr) : Prop :=
  ∃ node ∈ expr.walk true, node.isCall = true

/-- A function is called in one of the expressions, at any depth. -/
def AnyHasCall (exprs : List Expr) : Prop :=
  ∃ node ∈ walkAll true exprs, node.isCall = true

/-! A node is reached from an expression if it is reached from an operand or if it is the expression
itself. -/

section

variable (operand left right low high pattern : Expr) (list args exprs : List Expr)

attribute [local simp] walk walkAll isCall or_and_right exists_or

@[simp] theorem not_hasCall_ident (name : Ident) : ¬ HasCall (.ident name) := by
  simp [HasCall]

@[simp] theorem not_hasCall_compound (parts : List Ident) : ¬ HasCall (.compound parts) := by
  simp [HasCall]

@[simp] theorem not_hasCall_constant (value : Value) : ¬ HasCall (.constant value) := by
  simp [HasCall]

@[simp] theorem hasCall_binary (op : BinaryOperator) :
    HasCall (.binary op left right) ↔ left.HasCall ∨ right.HasCall := by
  simp [HasCall]

@[simp] theorem hasCall_unary (op : UnaryOperator) : HasCall (.unary op operand) ↔ operand.HasCall := by
  simp [HasCall]

@[simp] theorem hasCall_isNull : HasCall (.isNull operand) ↔ operand.HasCall := by
  simp [HasCall]

@[simp] theorem hasCall_isNotNull : HasCall (.isNotNull operand) ↔ operand.HasCall := by
  simp [HasCall]

@[simp] theorem hasCall_nested : HasCall (.nested operand) ↔ operand.HasCall := by
  simp [HasCall]

@[simp] theorem hasCall_between (negated : Bool) :
    HasCall (.between negated operand low high) ↔ operand.HasCall ∨ low.HasCall ∨ high.HasCall := by
  simp [HasCall]

@[simp] theorem hasCall_inList (negated : Bool) :
    HasCall (.inList negated operand list) ↔ operand.HasCall ∨ AnyHasCall list := by
  simp [HasCall, AnyHasCall]

@[simp] theorem hasCall_like (negated any : Bool) (escape : Option String) :
    HasCall (.like negated any operand pattern escape) ↔ operand.HasCall ∨ pattern.HasCall := by
  simp [HasCall]

@[simp] theorem hasCall_call (name : ObjectName) (clauses : CallClauses) :
    HasCall (.call name args clauses) :=
  ⟨.call name args clauses, by simp, rfl⟩

@[simp] theorem hasCall_bareCall (name : ObjectName) : HasCall (.bareCall name) :=
  ⟨.bareCall name, by simp, rfl⟩

@[simp] theorem not_anyHasCall_nil : ¬ AnyHasCall [] := by
  simp [AnyHasCall]

@[simp] theorem anyHasCall_cons : AnyHasCall (operand :: exprs) ↔ operand.HasCall ∨ AnyHasCall exprs := by
  simp [AnyHasCall, HasCall]

end

end Expr

/-- The expression of an item of a SELECT list; a wildcard is none. -/
def SelectItem.expr? : SelectItem → Option Expr
  | .plain expr => some expr
  | .aliased expr _ => some expr
  | .wildcard _ => none
  | .qualifiedWildcard _ _ => none

/-- A function is called in the expression of the item. -/
def SelectItem.HasCall (item : SelectItem) : Prop :=
  ∃ expr ∈ item.expr?, expr.HasCall

end Sql

/-! ## Calls as they are bound -/

namespace Expr

theorem callsFunction_ofName {scope : Option Scope} {name : String} {expr : Expr}
    (bound : ofName scope name = .ok expr) : expr.callsFunction = false := by
  cases scope with
  | none => cases bound
  | some known =>
    obtain ⟨column, -, rfl⟩ := map_eq_ok.mp bound
    rfl

theorem callsFunction_ofParts {scope : Option Scope} {parts : List Sql.Ident} {expr : Expr}
    (bound : ofParts scope parts = .ok expr) : expr.callsFunction = false := by
  unfold ofParts at bound
  split at bound
  · split at bound
    · exact callsFunction_ofName bound
    · cases bound
  · cases bound

theorem callsFunction_ofValue {value : Sql.Value} {expr : Expr} (bound : ofValue value = .ok expr) :
    expr.callsFunction = false := by
  unfold ofValue at bound
  split at bound
  · split at bound <;> cases bound
    rfl
  all_goals cases bound
  all_goals rfl

theorem callsFunction_applyUnary {op : Sql.UnaryOperator} {operand expr : Expr}
    (bound : applyUnary op operand = .ok expr) : expr.callsFunction = operand.callsFunction := by
  cases op <;> cases bound <;> rfl

mutual

/-- A bound expression calls a function exactly if one is called in the expression as it was written. -/
theorem callsFunction_ofSql (scope : Option Scope) : ∀ (sql : Sql.Expr) (expr : Expr),
    ofSql scope sql = .ok expr → (expr.callsFunction = true ↔ sql.HasCall)
  | .ident name, expr, bound => by simp [callsFunction_ofName bound]
  | .compound parts, expr, bound => by simp [callsFunction_ofParts bound]
  | .constant value, expr, bound => by simp [callsFunction_ofValue bound]
  | .binary op left right, expr, bound => by
    simp only [ofSql, bind_eq_ok, pure_eq_ok] at bound
    obtain ⟨left', hleft, right', hright, op', -, rfl⟩ := bound
    simp [callsFunction, callsFunction_ofSql scope left left' hleft,
      callsFunction_ofSql scope right right' hright]
  | .unary op operand, expr, bound => by
    simp only [ofSql, bind_eq_ok] at bound
    obtain ⟨operand', hoperand, happly⟩ := bound
    simp [callsFunction_applyUnary happly, callsFunction_ofSql scope operand operand' hoperand]
  | .isNull operand, expr, bound => by
    simp only [ofSql, bind_eq_ok, pure_eq_ok] at bound
    obtain ⟨operand', hoperand, rfl⟩ := bound
    simp [callsFunction, callsFunction_ofSql scope operand operand' hoperand]
  | .isNotNull operand, expr, bound => by
    simp only [ofSql, bind_eq_ok, pure_eq_ok] at bound
    obtain ⟨operand', hoperand, rfl⟩ := bound
    simp [callsFunction, callsFunction_ofSql scope operand operand' hoperand]
  | .nested inner, expr, bound => by
    simp [callsFunction_ofSql scope inner expr bound]
  | .between negated operand low high, expr, bound => by
    simp only [ofSql, bind_eq_ok, pure_eq_ok] at bound
    obtain ⟨operand', hoperand, low', hlow, high', hhigh, rfl⟩ := bound
    simp [callsFunction, callsFunction_ofSql scope operand operand' hoperand,
      callsFunction_ofSql scope low low' hlow, callsFunction_ofSql scope high high' hhigh, or_assoc]
  | .inList negated operand list, expr, bound => by
    simp only [ofSql, bind_eq_ok, pure_eq_ok] at bound
    obtain ⟨operand', hoperand, list', hlist, rfl⟩ := bound
    simp [callsFunction, callsFunction_ofSql scope operand operand' hoperand,
      anyCallsFunction_ofSqlList scope list list' hlist]
  | .like negated any operand pattern escape, expr, bound => by
    simp only [ofSql, bind_eq_ok, pure_eq_ok] at bound
    obtain ⟨operand', hoperand, pattern', hpattern, rfl⟩ := bound
    simp [callsFunction, callsFunction_ofSql scope operand operand' hoperand,
      callsFunction_ofSql scope pattern pattern' hpattern]
  | .call name args clauses, expr, bound => by
    simp only [ofSql, bind_eq_ok, pure_eq_ok] at bound
    obtain ⟨args', -, rfl⟩ := bound
    simp [function, callsFunction]
  | .bareCall name, expr, bound => by
    cases bound
    simp [function, callsFunction]
  -- none of the others can be bound
  | .isTrue operand, expr, bound => by cases bound
  | .queryCall name query, expr, bound => by cases bound
  | .argument text, expr, bound => by cases bound
  | .subquery query, expr, bound => by cases bound
  | .other text, expr, bound => by cases bound

theorem anyCallsFunction_ofSqlList (scope : Option Scope) :
    ∀ (sqls : List Sql.Expr) (exprs : List Expr), ofSqlList scope sqls = .ok exprs →
      (anyCallsFunction exprs = true ↔ Sql.Expr.AnyHasCall sqls)
  | [], exprs, bound => by
    cases bound
    simp [anyCallsFunction]
  | sql :: sqls, exprs, bound => by
    simp only [ofSqlList, bind_eq_ok, pure_eq_ok] at bound
    obtain ⟨expr, hexpr, exprs', hexprs, rfl⟩ := bound
    simp [anyCallsFunction, callsFunction_ofSql scope sql expr hexpr,
      anyCallsFunction_ofSqlList scope sqls exprs' hexprs]

end

/-! ## Items and predicates -/

end Expr

end VideoPlan
