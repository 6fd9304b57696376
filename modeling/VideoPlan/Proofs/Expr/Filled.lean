import VideoPlan.Proofs.Expr.Predicate

/-!
# Types that are learned later

What a function answers is not known before it is called, and null has no type. If any of them are replaced by
other expressions (`Filled`), a type that was known stays what it was (`type?_filled`): an operation on numbers
that has a type with one operand unknown is FLOAT by the other one, and the operand that becomes known does not
change that. So the verdict on a predicate of known type stands, whatever its functions turn out to return.

Main statement: `type?_stable`.
-/

namespace VideoPlan.Expr

/-! ## Types that are known -/

/-- A type that is known is kept; one that is not may become anything. -/
def TypeKept (known known' : Option ColumnType) : Prop :=
  ∀ type, known = some type → known' = some type

theorem TypeKept.refl (known : Option ColumnType) : TypeKept known known :=
  fun _ same => same

theorem TypeKept.unknown (known' : Option ColumnType) : TypeKept none known' :=
  nofun

/-- FLOAT comes from either operand, INTEGER from both. -/
theorem numericType?_eq_some_iff {left right : Option ColumnType} {type : ColumnType} :
    numericType? left right = some type ↔
      type = .float ∧ (left = some .float ∨ right = some .float) ∨
        type = .integer ∧ left = some .integer ∧ right = some .integer := by
  fun_cases numericType? left right <;> grind

section

variable {left left' right right' : Option ColumnType}

theorem TypeKept.numeric (keptLeft : TypeKept left left') (keptRight : TypeKept right right') :
    TypeKept (numericType? left right) (numericType? left' right') := by
  intro type known
  rw [numericType?_eq_some_iff] at known ⊢
  rcases known with ⟨rfl, isFloat⟩ | ⟨rfl, isInteger, isInteger'⟩
  · exact .inl ⟨rfl, isFloat.imp (keptLeft .float) (keptRight .float)⟩
  · exact .inr ⟨rfl, keptLeft .integer isInteger, keptRight .integer isInteger'⟩

/-- Only operations on numbers look at the types of their operands. -/
theorem TypeKept.binary (op : BinaryOp) (keptLeft : TypeKept left left') (keptRight : TypeKept right right') :
    TypeKept (binaryType? op left right) (binaryType? op left' right') := by
  cases op with
  | add | subtract | multiply | divide | modulo => exact keptLeft.numeric keptRight
  | _ => exact .refl _

end

/-! ## Expressions that are filled in -/

/-- A call of a function or null: an expression about whose type nothing is known. -/
def isUnknown : Expr → Bool
  | .call _ _ => true
  | .literal .null => true
  | _ => false

theorem type?_of_isUnknown {expr : Expr} (unknown : expr.isUnknown = true) : expr.type? = none := by
  unfold isUnknown at unknown
  split at unknown
  · rfl
  · rfl
  · cases unknown

mutual

/-- The second expression is the first one with any expressions in place of some of its calls and nulls, at any
depth: of a call that stays, the arguments may be filled in. -/
inductive Filled : Expr → Expr → Prop
  | unknown {expr : Expr} (expr' : Expr) : expr.isUnknown = true → Filled expr expr'
  | column (entry : Column) : Filled (.column entry) (.column entry)
  | literal (value : Scalar) : Filled (.literal value) (.literal value)
  | binary (op : BinaryOp) {left left' right right' : Expr} :
    Filled left left' → Filled right right' → Filled (.binary op left right) (.binary op left' right')
  | unary (op : UnaryOp) {operand operand' : Expr} :
    Filled operand operand' → Filled (.unary op operand) (.unary op operand')
  | call (name : String) {args args' : List Expr} :
    AllFilled args args' → Filled (.call name args) (.call name args')
  | inList (negated : Bool) {operand operand' : Expr} {list list' : List Expr} :
    Filled operand operand' → AllFilled list list' →
    Filled (.inList negated operand list) (.inList negated operand' list')
  | between (negated : Bool) {operand operand' low low' high high' : Expr} :
    Filled operand operand' → Filled low low' → Filled high high' →
    Filled (.between negated operand low high) (.between negated operand' low' high')
  | aliased (name : String) {operand operand' : Expr} :
    Filled operand operand' → Filled (.aliased operand name) (.aliased operand' name)

/-- Expressions that are filled in one by one. -/
inductive AllFilled : List Expr → List Expr → Prop
  | nil : AllFilled [] []
  | cons {expr expr' : Expr} {exprs exprs' : List Expr} :
    Filled expr expr' → AllFilled exprs exprs' → AllFilled (expr :: exprs) (expr' :: exprs')

end

/-- The induction is on how the expression is filled in. No type depends on the arguments of a call or on the
list of IN. -/
theorem type?_filled : ∀ {expr expr' : Expr}, Filled expr expr' → TypeKept expr.type? expr'.type?
  | _, expr', .unknown _ unknown => by
    rw [type?_of_isUnknown unknown]
    exact .unknown expr'.type?
  | _, _, .column entry => .refl _
  | _, _, .literal value => .refl _
  | _, _, .binary op left right => (type?_filled left).binary op (type?_filled right)
  | _, _, .unary .negate operand => by
    have kept := type?_filled operand
    exact kept
  | _, _, .unary .not operand => .refl _
  | _, _, .unary .isNull operand => .refl _
  | _, _, .unary .isNotNull operand => .refl _
  | _, _, .call name args => .unknown _
  | _, _, .inList negated operand list => .refl _
  | _, _, .between negated operand low high => .refl _
  | _, _, .aliased name operand => by
    have kept := type?_filled operand
    exact kept

/-! ## Main statement -/

/-- However an expression is filled in, a type that was known stays the same. So a predicate that is refused for
its type is refused with the same type when it is filled in, and one that is accepted with a known type is
accepted. -/
theorem type?_stable {expr expr' : Expr} (filled : Filled expr expr') :
    (∀ type, expr.type? = some type → expr'.type? = some type) ∧
    ∀ scope scope' sql sql', ofSql (some scope) sql = .ok expr → ofSql (some scope') sql' = .ok expr' →
      (∀ error, ofPredicate scope sql = .error error → ∃ type : ColumnType, type ≠ .boolean ∧
        error = .bind (.predicateType expr.text type.keyword) ∧
        ofPredicate scope' sql' = .error (.bind (.predicateType expr'.text type.keyword))) ∧
      ∀ type, expr.type? = some type → ofPredicate scope sql = .ok expr →
        ofPredicate scope' sql' = .ok expr' := by
  have kept := type?_filled filled
  refine ⟨kept, fun scope scope' sql sql' bound bound' => ?_⟩
  rw [ofPredicate_of_ofSql bound, ofPredicate_of_ofSql bound']
  constructor
  · intro error refused
    rw [verdict_eq_error, predicateFault?_eq_some_iff] at refused
    obtain ⟨type, known, other, rfl⟩ := refused
    have fault' : expr'.predicateFault? = some (notBoolean expr' type) :=
      predicateFault?_eq_some_iff.mpr ⟨type, kept type known, other, rfl⟩
    rw [fault']
    exact ⟨type, other, rfl, rfl⟩
  · intro type known accepted
    rw [verdict_eq_ok, predicateFault?_eq_none_iff] at accepted
    have fault' : expr'.predicateFault? = none := by
      rw [predicateFault?_eq_none_iff]
      intro type' known'
      -- the type that was known is the only one
      cases (kept type known).symm.trans known'
      exact accepted.1 type known
    rw [fault']
    rfl

/-- A sum with null is refused as FLOAT, and so it is with a text in place of null. -/
theorem type?_stable_float :
    let score : Column := { name := "score", type := { base := .float } }
    let scope := Scope.ofColumns [score]
    let sum (operand : Sql.Expr) : Sql.Expr := .binary .plus operand (.ident { value := "Score" })
    let null : Sql.Expr := .constant .null
    let car : Sql.Expr := .constant (.string .plain "car")
    let expr : Expr := .binary .add (.literal .null) (.column score)
    let expr' : Expr := .binary .add (.literal (.text "car")) (.column score)
    Filled expr expr' ∧ expr.type? = some .float ∧
      ofSql (some scope) (sum null) = .ok expr ∧ ofSql (some scope) (sum car) = .ok expr' ∧
      ofPredicate scope (sum null) = .error (.bind (.predicateType "(NULL + score)" "FLOAT")) ∧
      ofPredicate scope (sum car) = .error (.bind (.predicateType "('car' + score)" "FLOAT")) := by
  intro score scope sum null car expr expr'
  have filled : Filled expr expr' := .binary .add (.unknown _ rfl) (.column score)
  have named : ofSql (some scope) (.ident { value := "Score" }) = .ok (.column score) := by
    have found : scope.find? "Score" = some score := by decide +kernel
    rw [ofSql, ofName, Scope.resolve, found]
    rfl
  have meant : ofOperator .plus = .ok .add := rfl
  have bound : ofSql (some scope) (sum null) = .ok expr := ofSql_binary meant rfl named
  have bound' : ofSql (some scope) (sum car) = .ok expr' := ofSql_binary meant rfl named
  have refused : ofPredicate scope (sum null) = .error (.bind (.predicateType "(NULL + score)" "FLOAT")) := by
    rw [ofPredicate_of_ofSql bound]
    rfl
  obtain ⟨-, verdicts⟩ := type?_stable filled
  obtain ⟨stays, -⟩ := verdicts scope scope (sum null) (sum car) bound bound'
  obtain ⟨type, -, same, refused'⟩ := stays _ refused
  have keyword : "FLOAT" = type.keyword := by
    injection same with same
    injection same
  rw [← keyword] at refused'
  exact ⟨filled, rfl, bound, bound', refused, refused'⟩

end VideoPlan.Expr
