import VideoPlan.Binding
import VideoPlan.Proofs.Agreement

/-!
# Names in another case

The case of names does not matter for binding. `Recased` relates expressions that differ in nothing but the
case of their names: columns by their names in lower case, functions by their names in upper case. Bound in
one scope, such expressions become the same expression or fail in the same way, and so do the items,
predicates and rows that are made of them (`agree_ofItems`, `agree_ofPredicate`, `agree_ofRows`).
-/

namespace VideoPlan

/-- Two names differ at most in case. -/
def SameName (name name' : String) : Prop :=
  Text.lowercase name = Text.lowercase name'

namespace Sql

/-- The names of two functions, as they are written, differ at most in case. -/
def SameFunction (name name' : ObjectName) : Prop :=
  Text.uppercase (dotted name) = Text.uppercase (dotted name')

mutual

/-- Two expressions differ at most in the case of names. What is kept as text has its names somewhere in
the text, so there any two texts are admitted. -/
inductive Recased : Expr → Expr → Prop
  | ident {name name' : Ident} : SameName name.value name'.value → Recased (.ident name) (.ident name')
  | compound {parts parts' : List Ident} :
    List.Forall₂ (fun part part' => SameName part.value part'.value) parts parts' →
    Recased (.compound parts) (.compound parts')
  | constant (value : Value) : Recased (.constant value) (.constant value)
  | binary (op : BinaryOperator) {left left' right right' : Expr} :
    Recased left left' → Recased right right' → Recased (.binary op left right) (.binary op left' right')
  | unary (op : UnaryOperator) {operand operand' : Expr} :
    Recased operand operand' → Recased (.unary op operand) (.unary op operand')
  | isNull {operand operand' : Expr} : Recased operand operand' → Recased (.isNull operand) (.isNull operand')
  | isNotNull {operand operand' : Expr} :
    Recased operand operand' → Recased (.isNotNull operand) (.isNotNull operand')
  | isTrue {operand operand' : Expr} : Recased operand operand' → Recased (.isTrue operand) (.isTrue operand')
  | nested {inner inner' : Expr} : Recased inner inner' → Recased (.nested inner) (.nested inner')
  | between (negated : Bool) {operand operand' low low' high high' : Expr} :
    Recased operand operand' → Recased low low' → Recased high high' →
    Recased (.between negated operand low high) (.between negated operand' low' high')
  | inList (negated : Bool) {operand operand' : Expr} {list list' : List Expr} :
    Recased operand operand' → AllRecased list list' →
    Recased (.inList negated operand list) (.inList negated operand' list')
  | like (negated any : Bool) (escape : Option String) {operand operand' pattern pattern' : Expr} :
    Recased operand operand' → Recased pattern pattern' →
    Recased (.like negated any operand pattern escape) (.like negated any operand' pattern' escape)
  | call (clauses clauses' : CallClauses) {name name' : ObjectName} {args args' : List Expr} :
    SameFunction name name' → AllRecased args args' →
    Recased (.call name args clauses) (.call name' args' clauses')
  | bareCall {name name' : ObjectName} :
    SameFunction name name' → Recased (.bareCall name) (.bareCall name')
  | queryCall (query query' : String) {name name' : ObjectName} :
    SameFunction name name' → Recased (.queryCall name query) (.queryCall name' query')
  | argument (text text' : String) : Recased (.argument text) (.argument text')
  | subquery (query query' : String) : Recased (.subquery query) (.subquery query')
  | other (text text' : String) : Recased (.other text) (.other text')

/-- Expressions that differ one by one at most in the case of names. -/
inductive AllRecased : List Expr → List Expr → Prop
  | nil : AllRecased [] []
  | cons {expr expr' : Expr} {exprs exprs' : List Expr} :
    Recased expr expr' → AllRecased exprs exprs' → AllRecased (expr :: exprs) (expr' :: exprs')

end

/-- Two items of a SELECT list differ at most in the case of names; the labels are the same. -/
inductive SelectItem.Recased : SelectItem → SelectItem → Prop
  | plain {expr expr' : Expr} : Sql.Recased expr expr' → Recased (.plain expr) (.plain expr')
  | aliased (label : Ident) {expr expr' : Expr} :
    Sql.Recased expr expr' → Recased (.aliased expr label) (.aliased expr' label)
  | wildcard (options options' : String) : Recased (.wildcard options) (.wildcard options')
  | qualifiedWildcard (name name' : ObjectName) (options options' : String) :
    Recased (.qualifiedWildcard name options) (.qualifiedWildcard name' options')

end Sql

/-- A scope finds the same under both names. -/
theorem Scope.find?_of_sameName (scope : Scope) {name name' : String} (same : SameName name name') :
    scope.find? name = scope.find? name' := by
  unfold find?
  rw [same]

theorem Scope.agree_resolve (scope : Scope) {name name' : String} (same : SameName name name') :
    Agree Eq (scope.resolve name) (scope.resolve name') := by
  unfold resolve
  rw [scope.find?_of_sameName same]
  cases scope.find? name' with
  | some column => exact .ok rfl
  | none => exact .error rfl

namespace Expr

/-! ## Names -/

theorem agree_ofName (scope : Option Scope) {name name' : String} (same : SameName name name') :
    Agree Eq (ofName scope name) (ofName scope name') := by
  cases scope with
  | some scope => exact (scope.agree_resolve same).mapEq _
  | none => exact .error rfl

/-- Names with qualifiers have as many parts, and their last parts are the same name. -/
theorem agree_ofParts (scope : Option Scope) {parts parts' : List Sql.Ident}
    (same : List.Forall₂ (fun part part' => SameName part.value part'.value) parts parts') :
    Agree Eq (ofParts scope parts) (ofParts scope parts') := by
  have reversed := List.forall₂_reverse_iff.mpr same
  unfold ofParts
  rw [same.length_eq, List.getLast?_eq_head?_reverse, List.getLast?_eq_head?_reverse]
  generalize parts.reverse = backward, parts'.reverse = backward' at reversed ⊢
  cases reversed with
  | nil => exact .error rfl
  | cons last _ =>
    dsimp only [List.head?_cons]
    split
    · exact agree_ofName scope last
    · exact .error rfl

/-! ## Expressions -/

mutual

/-- The induction is on how the expressions are related: the same steps are taken for both of them. -/
theorem agree_ofSql (scope : Option Scope) : ∀ {sql sql' : Sql.Expr},
    Sql.Recased sql sql' → Agree Eq (ofSql scope sql) (ofSql scope sql')
  | _, _, .ident same => agree_ofName scope same
  | _, _, .compound same => agree_ofParts scope same
  | _, _, .constant value => .refl _
  | _, _, .binary op left right =>
    (agree_ofSql scope left).bindEq fun _ => (agree_ofSql scope right).bindEq fun _ => .refl _
  | _, _, .unary op operand => (agree_ofSql scope operand).bindEq fun _ => .refl _
  | _, _, .isNull operand => (agree_ofSql scope operand).bindEq fun _ => .refl _
  | _, _, .isNotNull operand => (agree_ofSql scope operand).bindEq fun _ => .refl _
  | _, _, .isTrue operand => .error rfl
  | _, _, .nested inner => by
    rw [ofSql, ofSql]
    exact agree_ofSql scope inner
  | _, _, .between negated operand low high =>
    (agree_ofSql scope operand).bindEq fun _ => (agree_ofSql scope low).bindEq fun _ =>
      (agree_ofSql scope high).bindEq fun _ => .refl _
  | _, _, .inList negated operand list =>
    (agree_ofSql scope operand).bindEq fun _ => (agree_ofSqlList scope list).bindEq fun _ => .refl _
  | _, _, .like negated any escape operand pattern =>
    (agree_ofSql scope operand).bindEq fun _ => (agree_ofSql scope pattern).bindEq fun _ => .refl _
  | _, _, .call clauses clauses' same args =>
    (agree_ofSqlList scope args).bindEq fun args => by
      unfold function
      rw [same]
      exact .refl _
  | _, _, .bareCall same => by
    unfold ofSql function
    rw [same]
    exact .refl _
  -- none of the others can be bound
  | _, _, .queryCall query query' same => .error rfl
  | _, _, .argument text text' => .error rfl
  | _, _, .subquery query query' => .error rfl
  | _, _, .other text text' => .error rfl

theorem agree_ofSqlList (scope : Option Scope) : ∀ {sqls sqls' : List Sql.Expr},
    Sql.AllRecased sqls sqls' → Agree Eq (ofSqlList scope sqls) (ofSqlList scope sqls')
  | _, _, .nil => .refl _
  | _, _, .cons first rest =>
    (agree_ofSql scope first).bindEq fun _ => (agree_ofSqlList scope rest).bindEq fun _ => .refl _

end

/-! ## Items, predicates and rows -/

theorem agree_ofItem (scope : Option Scope) {item item' : Sql.SelectItem} (same : item.Recased item') :
    Agree Eq (ofItem scope item) (ofItem scope item') := by
  cases same with
  | plain same => exact (agree_ofSql scope same).bindEq fun _ => .refl _
  | aliased label same => exact (agree_ofSql scope same).bindEq fun _ => .refl _
  | wildcard options options' => exact .refl _
  | qualifiedWildcard name name' options options' => exact .error rfl

theorem agree_ofItems (scope : Option Scope) {items items' : List Sql.SelectItem}
    (same : List.Forall₂ Sql.SelectItem.Recased items items') :
    Agree Eq (ofItems scope items) (ofItems scope items') := by
  induction same with
  | nil => exact .refl _
  | cons first _ ih => exact (agree_ofItem scope first).bindEq fun _ => ih.bindEq fun _ => .refl _

theorem agree_ofPredicate (scope : Scope) {sql sql' : Sql.Expr} (same : Sql.Recased sql sql') :
    Agree Eq (ofPredicate scope sql) (ofPredicate scope sql') :=
  (agree_ofSql (some scope) same).bindEq fun _ => .refl _

theorem agree_ofRows {rows rows' : List (List Sql.Expr)} (same : List.Forall₂ Sql.AllRecased rows rows') :
    Agree Eq (ofRows rows) (ofRows rows') := by
  induction same with
  | nil => exact .refl _
  | cons first _ ih => exact (agree_ofSqlList none first).bindEq fun _ => ih.bindEq fun _ => .refl _

end Expr

end VideoPlan
