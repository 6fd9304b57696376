import VideoPlan.Binding
import VideoPlan.Proofs.Action
import VideoPlan.Proofs.Scope

/-!
# Columns of expressions

The columns that an expression refers to, and where they come from: binding takes every column from the
scope (`columns_ofSql` and its companions for items, predicates and rows). Without a scope there are none.
-/

namespace VideoPlan.Expr

mutual

/-- The columns that the expression refers to, from left to right. -/
def columns : Expr → List Column
  | .column entry => [entry]
  | .literal _ => []
  | .binary _ left right => left.columns ++ right.columns
  | .unary _ operand => operand.columns
  | .call _ args => columnsOfAll args
  | .inList _ operand list => operand.columns ++ columnsOfAll list
  | .between _ operand low high => operand.columns ++ low.columns ++ high.columns
  | .aliased operand _ => operand.columns

/-- The columns that the expressions refer to. -/
def columnsOfAll : List Expr → List Column
  | [] => []
  | expr :: exprs => expr.columns ++ columnsOfAll exprs

end

theorem columnsOfAll_append (exprs exprs' : List Expr) :
    columnsOfAll (exprs ++ exprs') = columnsOfAll exprs ++ columnsOfAll exprs' := by
  induction exprs with
  | nil => rfl
  | cons expr exprs ih => rw [List.cons_append, columnsOfAll, ih, columnsOfAll, List.append_assoc]

theorem columnsOfAll_map_column (columns : List Column) :
    columnsOfAll (columns.map .column) = columns := by
  induction columns with
  | nil => rfl
  | cons column columns ih => rw [List.map_cons, columnsOfAll, ih]; rfl

/-- All of the columns are columns of the scope; without a scope there are none. -/
def InScope (scope : Option Scope) (columns : List Column) : Prop :=
  ∀ column ∈ columns, ∃ known ∈ scope, column ∈ known.columns

theorem InScope.nil (scope : Option Scope) : InScope scope [] :=
  fun _ member => by cases member

theorem InScope.eq_nil {columns : List Column} (inScope : InScope none columns) : columns = [] := by
  rw [List.eq_nil_iff_forall_not_mem]
  intro column member
  obtain ⟨known, none, -⟩ := inScope column member
  cases none

theorem InScope.append {scope : Option Scope} {columns columns' : List Column}
    (left : InScope scope columns) (right : InScope scope columns') :
    InScope scope (columns ++ columns') := by
  intro column member
  rcases List.mem_append.mp member with member | member
  · exact left column member
  · exact right column member

theorem InScope.mem_columns {scope : Scope} {columns : List Column}
    (inScope : InScope (some scope) columns) : ∀ column ∈ columns, column ∈ scope.columns := by
  intro column member
  obtain ⟨known, same, known_member⟩ := inScope column member
  cases same
  exact known_member

/-! ## Names, constants and operators -/

theorem columns_ofName {scope : Option Scope} {name : String} {expr : Expr}
    (bound : ofName scope name = .ok expr) : InScope scope expr.columns := by
  cases scope with
  | none => cases bound
  | some known =>
    obtain ⟨column, found, rfl⟩ := map_eq_ok.mp bound
    intro column' member
    cases List.mem_singleton.mp member
    exact ⟨known, rfl, Scope.mem_columns_of_find? (Scope.resolve_eq_ok.mp found)⟩

theorem columns_ofParts {scope : Option Scope} {parts : List Sql.Ident} {expr : Expr}
    (bound : ofParts scope parts = .ok expr) : InScope scope expr.columns := by
  unfold ofParts at bound
  split at bound
  · split at bound
    · exact columns_ofName bound
    · cases bound
  · cases bound

/-- A constant is bound to a literal. -/
theorem columns_ofValue {scope : Option Scope} {value : Sql.Value} {expr : Expr}
    (bound : ofValue value = .ok expr) : InScope scope expr.columns := by
  unfold ofValue at bound
  split at bound
  · split at bound <;> cases bound
    exact InScope.nil scope
  all_goals cases bound
  all_goals exact InScope.nil scope

theorem columns_applyUnary {op : Sql.UnaryOperator} {operand expr : Expr}
    (bound : applyUnary op operand = .ok expr) : expr.columns = operand.columns := by
  cases op <;> cases bound <;> rfl

/-! ## Expressions -/

mutual

theorem columns_ofSql (scope : Option Scope) : ∀ (sql : Sql.Expr) (expr : Expr),
    ofSql scope sql = .ok expr → InScope scope expr.columns
  | .ident name, expr, bound => columns_ofName bound
  | .compound parts, expr, bound => columns_ofParts bound
  | .constant value, expr, bound => columns_ofValue bound
  | .binary op left right, expr, bound => by
    simp only [ofSql, bind_eq_ok, pure_eq_ok] at bound
    obtain ⟨left', hleft, right', hright, op', -, rfl⟩ := bound
    exact (columns_ofSql scope left left' hleft).append (columns_ofSql scope right right' hright)
  | .unary op operand, expr, bound => by
    simp only [ofSql, bind_eq_ok] at bound
    obtain ⟨operand', hoperand, happly⟩ := bound
    rw [columns_applyUnary happly]
    exact columns_ofSql scope operand operand' hoperand
  | .isNull operand, expr, bound => by
    simp only [ofSql, bind_eq_ok, pure_eq_ok] at bound
    obtain ⟨operand', hoperand, rfl⟩ := bound
    exact columns_ofSql scope operand operand' hoperand
  | .isNotNull operand, expr, bound => by
    simp only [ofSql, bind_eq_ok, pure_eq_ok] at bound
    obtain ⟨operand', hoperand, rfl⟩ := bound
    exact columns_ofSql scope operand operand' hoperand
  | .nested inner, expr, bound => columns_ofSql scope inner expr bound
  | .between negated operand low high, expr, bound => by
    simp only [ofSql, bind_eq_ok, pure_eq_ok] at bound
    obtain ⟨operand', hoperand, low', hlow, high', hhigh, rfl⟩ := bound
    exact ((columns_ofSql scope operand operand' hoperand).append
      (columns_ofSql scope low low' hlow)).append (columns_ofSql scope high high' hhigh)
  | .inList negated operand list, expr, bound => by
    simp only [ofSql, bind_eq_ok, pure_eq_ok] at bound
    obtain ⟨operand', hoperand, list', hlist, rfl⟩ := bound
    exact (columns_ofSql scope operand operand' hoperand).append
      (columns_ofSqlList scope list list' hlist)
  | .like negated any operand pattern escape, expr, bound => by
    simp only [ofSql, bind_eq_ok, pure_eq_ok] at bound
    obtain ⟨operand', hoperand, pattern', hpattern, rfl⟩ := bound
    exact (columns_ofSql scope operand operand' hoperand).append
      (columns_ofSql scope pattern pattern' hpattern)
  | .call name args clauses, expr, bound => by
    simp only [ofSql, bind_eq_ok, pure_eq_ok] at bound
    obtain ⟨args', hargs, rfl⟩ := bound
    exact columns_ofSqlList scope args args' hargs
  | .bareCall name, expr, bound => by
    cases bound
    exact InScope.nil scope
  -- none of the others can be bound
  | .isTrue operand, expr, bound => by cases bound
  | .queryCall name query, expr, bound => by cases bound
  | .argument text, expr, bound => by cases bound
  | .subquery query, expr, bound => by cases bound
  | .other text, expr, bound => by cases bound

theorem columns_ofSqlList (scope : Option Scope) : ∀ (sqls : List Sql.Expr) (exprs : List Expr),
    ofSqlList scope sqls = .ok exprs → InScope scope (columnsOfAll exprs)
  | [], exprs, bound => by
    cases bound
    exact InScope.nil scope
  | sql :: sqls, exprs, bound => by
    simp only [ofSqlList, bind_eq_ok, pure_eq_ok] at bound
    obtain ⟨expr, hexpr, exprs', hexprs, rfl⟩ := bound
    exact (columns_ofSql scope sql expr hexpr).append (columns_ofSqlList scope sqls exprs' hexprs)

end

/-! ## Items and predicates -/

/-- A wildcard stands for columns of the scope. -/
theorem columns_ofItem {scope : Option Scope} {item : Sql.SelectItem} {exprs : List Expr}
    (bound : ofItem scope item = .ok exprs) : InScope scope (columnsOfAll exprs) := by
  cases item with
  | plain sql =>
    simp only [ofItem, bind_eq_ok, pure_eq_ok] at bound
    obtain ⟨expr, hexpr, rfl⟩ := bound
    exact (columns_ofSql scope sql expr hexpr).append (InScope.nil scope)
  | aliased sql label =>
    simp only [ofItem, bind_eq_ok, pure_eq_ok] at bound
    obtain ⟨expr, hexpr, rfl⟩ := bound
    exact (columns_ofSql scope sql expr hexpr).append (InScope.nil scope)
  | wildcard options =>
    simp only [ofItem] at bound
    split at bound
    · rename_i known hknown
      cases bound
      rw [columnsOfAll_map_column]
      intro column member
      exact ⟨known, (Option.filter_eq_some_iff.mp hknown).1, Scope.mem_columnsInOrder.mp member⟩
    · cases bound
  | qualifiedWildcard name options => cases bound

theorem columns_ofItems {scope : Option Scope} {items : List Sql.SelectItem} {exprs : List Expr}
    (bound : ofItems scope items = .ok exprs) : InScope scope (columnsOfAll exprs) := by
  induction items generalizing exprs with
  | nil => cases bound; exact InScope.nil scope
  | cons item items ih =>
    simp only [ofItems, bind_eq_ok, pure_eq_ok] at bound
    obtain ⟨first, hfirst, rest, hrest, rfl⟩ := bound
    rw [columnsOfAll_append]
    exact (columns_ofItem hfirst).append (ih hrest)

/-- A predicate is bound like any other expression and then only checked. -/
theorem ofSql_of_ofPredicate {scope : Scope} {predicate : Sql.Expr} {expr : Expr}
    (bound : ofPredicate scope predicate = .ok expr) : ofSql (some scope) predicate = .ok expr := by
  obtain ⟨expr', hexpr, checked⟩ := bind_eq_ok.mp bound
  split at checked <;> cases checked <;> exact hexpr

end VideoPlan.Expr
