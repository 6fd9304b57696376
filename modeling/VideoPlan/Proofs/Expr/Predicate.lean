import VideoPlan.Proofs.Expr.Order

/-!
# Predicates

An expression in WHERE is bound like any other; then its type is looked at, that of the expression as a whole.
It is refused if this type is known and is not BOOLEAN (`predicateFault?`). Logical operators are BOOLEAN
whatever stands below them, so the types of their operands do not count (`operands_not_checked`): combined by at
least one of them, all expressions that can be bound are accepted (`accepts_sql_iff`).

Main statement: `predicate_checked_at_root`.
-/

namespace VideoPlan.Expr

/-! ## The check -/

/-- The error of a predicate of another type than BOOLEAN. -/
def notBoolean (expr : Expr) (type : ColumnType) : Error :=
  .bind (.predicateType expr.text type.keyword)

/-- What is wrong with a bound expression as a predicate. -/
def predicateFault? (expr : Expr) : Option Error :=
  match expr.type? with
  | some .boolean => none
  | some type => some (notBoolean expr type)
  | none => none

theorem predicateFault?_eq_some_iff {expr : Expr} {error : Error} :
    expr.predicateFault? = some error ↔
      ∃ type, expr.type? = some type ∧ type ≠ .boolean ∧ notBoolean expr type = error := by
  unfold predicateFault?
  cases expr.type? with
  | none => simp
  | some type => cases type <;> simp

theorem predicateFault?_eq_none_iff {expr : Expr} :
    expr.predicateFault? = none ↔ ∀ type, expr.type? = some type → type = .boolean := by
  unfold predicateFault?
  cases expr.type? with
  | none => simp
  | some type => cases type <;> simp

/-- The expression can be bound in the scope. -/
def Binds (scope : Scope) (sql : Sql.Expr) : Prop :=
  ∃ expr, ofSql (some scope) sql = .ok expr

/-- The expression can be bound in the scope and is accepted as a predicate. -/
def Accepts (scope : Scope) (sql : Sql.Expr) : Prop :=
  ∃ expr, ofPredicate scope sql = .ok expr

section

variable {scope : Scope} {sql : Sql.Expr} {expr : Expr}

/-- A predicate that can be bound comes to the verdict on what it is bound to. -/
theorem ofPredicate_of_ofSql (bound : ofSql (some scope) sql = .ok expr) :
    ofPredicate scope sql = verdict expr.predicateFault? expr := by
  have checked : ofPredicate scope sql =
      ofSql (some scope) sql >>= fun expr => verdict expr.predicateFault? expr := by
    unfold ofPredicate predicateFault?
    congr
    funext expr
    cases expr.type? with
    | none => rfl
    | some type => cases type <;> rfl
  rw [checked, bound]
  rfl

theorem accepts_iff (bound : ofSql (some scope) sql = .ok expr) :
    Accepts scope sql ↔ expr.predicateFault? = none := by
  unfold Accepts
  rw [ofPredicate_of_ofSql bound]
  cases expr.predicateFault? <;> simp [verdict]

end

/-! ## Logical operators -/

section

variable {scope : Scope} {left right operand : Sql.Expr} {left' right' operand' : Expr}

theorem ofSql_binary {op : Sql.BinaryOperator} {operation : BinaryOp} (meant : ofOperator op = .ok operation)
    (hleft : ofSql (some scope) left = .ok left') (hright : ofSql (some scope) right = .ok right') :
    ofSql (some scope) (.binary op left right) = .ok (.binary operation left' right') := by
  rw [ofSql, hleft, hright, meant]
  rfl

theorem ofSql_not (hoperand : ofSql (some scope) operand = .ok operand') :
    ofSql (some scope) (.unary .not operand) = .ok (.unary .not operand') := by
  rw [ofSql, hoperand]
  rfl

theorem ofPredicate_and (hleft : ofSql (some scope) left = .ok left')
    (hright : ofSql (some scope) right = .ok right') :
    ofPredicate scope (.binary .and left right) = .ok (.binary .and left' right') := by
  have meant : ofOperator .and = .ok .and := rfl
  exact ofPredicate_of_ofSql (ofSql_binary meant hleft hright)

theorem ofPredicate_or (hleft : ofSql (some scope) left = .ok left')
    (hright : ofSql (some scope) right = .ok right') :
    ofPredicate scope (.binary .or left right) = .ok (.binary .or left' right') := by
  have meant : ofOperator .or = .ok .or := rfl
  exact ofPredicate_of_ofSql (ofSql_binary meant hleft hright)

theorem ofPredicate_not (hoperand : ofSql (some scope) operand = .ok operand') :
    ofPredicate scope (.unary .not operand) = .ok (.unary .not operand') :=
  ofPredicate_of_ofSql (ofSql_not hoperand)

end

/-! ## Combinations -/

/-- An expression that AND, OR, NOT and parentheses combine from parts. -/
inductive Combination
  | part (sql : Sql.Expr)
  | nested (inner : Combination)
  | and (left right : Combination)
  | or (left right : Combination)
  | not (operand : Combination)

namespace Combination

/-- The combination as an expression. -/
def sql : Combination → Sql.Expr
  | part sql => sql
  | nested inner => .nested inner.sql
  | and left right => .binary .and left.sql right.sql
  | or left right => .binary .or left.sql right.sql
  | not operand => .unary .not operand.sql

/-- The parts from left to right. -/
def parts : Combination → List Sql.Expr
  | part sql => [sql]
  | nested inner => inner.parts
  | and left right => left.parts ++ right.parts
  | or left right => left.parts ++ right.parts
  | not operand => operand.parts

/-- Whether there is a logical operator in the combination. -/
def isLogical : Combination → Bool
  | part _ => false
  | nested inner => inner.isLogical
  | and _ _ | or _ _ | not _ => true

section

variable {scope : Scope}

/-- A combination can be bound if its parts can. -/
theorem binds_sql : ∀ combination : Combination, (∀ part ∈ combination.parts, Binds scope part) →
    Binds scope combination.sql
  | part sql, bound => bound sql (List.mem_singleton.mpr rfl)
  | nested inner, bound => binds_sql inner bound
  | and left right, bound => by
    obtain ⟨boundLeft, boundRight⟩ := List.forall_mem_append.mp bound
    obtain ⟨left', hleft⟩ := binds_sql left boundLeft
    obtain ⟨right', hright⟩ := binds_sql right boundRight
    exact ⟨_, ofSql_binary rfl hleft hright⟩
  | or left right, bound => by
    obtain ⟨boundLeft, boundRight⟩ := List.forall_mem_append.mp bound
    obtain ⟨left', hleft⟩ := binds_sql left boundLeft
    obtain ⟨right', hright⟩ := binds_sql right boundRight
    exact ⟨_, ofSql_binary rfl hleft hright⟩
  | not operand, bound => by
    obtain ⟨operand', hoperand⟩ := binds_sql operand bound
    exact ⟨_, ofSql_not hoperand⟩

/-- A combination of parts that can be bound is accepted if there is a logical operator in it; else it is one part
in parentheses, and accepted if this part is. -/
theorem accepts_sql_iff : ∀ combination : Combination, (∀ part ∈ combination.parts, Binds scope part) →
    (Accepts scope combination.sql ↔
      combination.isLogical = true ∨ ∀ part ∈ combination.parts, Accepts scope part)
  | part sql, bound => by simp [Combination.sql, isLogical, parts]
  | nested inner, bound => accepts_sql_iff inner bound
  | and left right, bound => by
    obtain ⟨boundLeft, boundRight⟩ := List.forall_mem_append.mp bound
    obtain ⟨left', hleft⟩ := binds_sql left boundLeft
    obtain ⟨right', hright⟩ := binds_sql right boundRight
    exact iff_of_true ⟨_, ofPredicate_and hleft hright⟩ (.inl rfl)
  | or left right, bound => by
    obtain ⟨boundLeft, boundRight⟩ := List.forall_mem_append.mp bound
    obtain ⟨left', hleft⟩ := binds_sql left boundLeft
    obtain ⟨right', hright⟩ := binds_sql right boundRight
    exact iff_of_true ⟨_, ofPredicate_or hleft hright⟩ (.inl rfl)
  | not operand, bound => by
    obtain ⟨operand', hoperand⟩ := binds_sql operand bound
    exact iff_of_true ⟨_, ofPredicate_not hoperand⟩ (.inl rfl)

end

end Combination

/-! ## Main statement -/

/-- A column of integers. -/
def integerColumn : Column :=
  { name := "id", type := { base := .integer } }

/-- The name of the column of integers. -/
def integerName : Sql.Expr :=
  .ident { value := "id" }

theorem ofSql_integerName :
    ofSql (some (.ofColumns [integerColumn])) integerName = .ok (.column integerColumn) := by
  have found : (Scope.ofColumns [integerColumn]).find? "id" = some integerColumn := by decide +kernel
  rw [integerName, ofSql, ofName, Scope.resolve, found]
  rfl

/-- A column of integers is no predicate, but under a logical operator it is accepted. -/
theorem operands_not_checked :
    let scope := Scope.ofColumns [integerColumn]
    let id := integerName
    ofSql (some scope) id = .ok (.column integerColumn) ∧
      ofPredicate scope id = .error (.bind (.predicateType "id" "INTEGER")) ∧
      ¬ (Accepts scope (.binary .and id id) ↔ Accepts scope id ∧ Accepts scope id) ∧
      ¬ (Accepts scope (.binary .or id id) ↔ Accepts scope id ∧ Accepts scope id) ∧
      ¬ (Accepts scope (.unary .not id) ↔ Accepts scope id) := by
  intro scope id
  have bound := ofSql_integerName
  have refused : ¬ Accepts scope id := by
    rw [accepts_iff bound]
    exact nofun
  refine ⟨bound, ofPredicate_of_ofSql bound, fun same => ?_, fun same => ?_, fun same => ?_⟩
  · exact refused (same.mp ⟨_, ofPredicate_and bound bound⟩).1
  · exact refused (same.mp ⟨_, ofPredicate_or bound bound⟩).1
  · exact refused (same.mp ⟨_, ofPredicate_not bound⟩)

/-- For every scope: what can be bound is accepted as a predicate exactly if its type as a whole is BOOLEAN or not
known, and else refused with this type. AND, OR and NOT are accepted over whatever can be bound, so in
particular over what is accepted. At any depth, a combination of parts that can be bound is accepted exactly if
there is a logical operator in it, or else if its only part is accepted. -/
theorem predicate_checked_at_root (scope : Scope) :
    (∀ sql expr, ofSql (some scope) sql = .ok expr →
      (ofPredicate scope sql = .ok expr ↔ ∀ type, expr.type? = some type → type = .boolean) ∧
      ∀ type, expr.type? = some type → type ≠ .boolean →
        ofPredicate scope sql = .error (.bind (.predicateType expr.text type.keyword))) ∧
    (∀ left right left' right', ofSql (some scope) left = .ok left' → ofSql (some scope) right = .ok right' →
      ofPredicate scope (.binary .and left right) = .ok (.binary .and left' right') ∧
      ofPredicate scope (.binary .or left right) = .ok (.binary .or left' right') ∧
      ofPredicate scope (.unary .not left) = .ok (.unary .not left')) ∧
    ∀ combination : Combination, (∀ part ∈ combination.parts, Binds scope part) →
      (Accepts scope combination.sql ↔
        combination.isLogical = true ∨ ∀ part ∈ combination.parts, Accepts scope part) := by
  refine ⟨fun sql expr bound => ⟨?_, fun type known other => ?_⟩, ?_, Combination.accepts_sql_iff⟩
  · rw [ofPredicate_of_ofSql bound, verdict_eq_ok, predicateFault?_eq_none_iff]
    exact and_iff_left rfl
  · have fault : expr.predicateFault? = some (notBoolean expr type) :=
      predicateFault?_eq_some_iff.mpr ⟨type, known, other, rfl⟩
    rw [ofPredicate_of_ofSql bound, fault]
    rfl
  · intro left right left' right' hleft hright
    exact ⟨ofPredicate_and hleft hright, ofPredicate_or hleft hright, ofPredicate_not hleft⟩

/-- Two operators, one of them in parentheses, over a column that is no predicate. -/
theorem predicate_checked_at_root_nested :
    let scope := Scope.ofColumns [integerColumn]
    let id := integerName
    let combination : Combination := .and (.part id) (.nested (.not (.part id)))
    ofSql (some scope) id = .ok (.column integerColumn) ∧
      (Expr.column integerColumn).type? = some .integer ∧
      ofPredicate scope id = .error (.bind (.predicateType "id" "INTEGER")) ∧
      (∀ part ∈ combination.parts, Binds scope part) ∧ Accepts scope combination.sql := by
  intro scope id combination
  have bound := ofSql_integerName
  have parts : ∀ part ∈ combination.parts, Binds scope part := by
    intro part member
    have same : part = id := by simpa [combination, Combination.parts] using member
    exact same ▸ ⟨_, bound⟩
  obtain ⟨alone, -, combined⟩ := predicate_checked_at_root scope
  have refused := (alone id (.column integerColumn) bound).2 .integer rfl nofun
  exact ⟨bound, rfl, refused, parts, (combined combination parts).mpr (.inl rfl)⟩

end VideoPlan.Expr
