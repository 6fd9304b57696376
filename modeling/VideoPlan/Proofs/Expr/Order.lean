import Mathlib.Data.List.Forall2
import VideoPlan.Binding
import VideoPlan.Proofs.Action

/-!
# The order of binding

What binding answers, without its recursion: the nodes of an expression are visited with operands before
their operation, and the error is the first fault of a node. If no node has one, the expression means the
same under the names of a plan.

* `Sql.Expr.walk`: the nodes in order;
* `fault?`: what is wrong with a node, whatever stands below it;
* `translate`: the meaning of an expression without faults;
* `ofSql_follows_walk`: binding is the walk and then the translation.
-/

namespace VideoPlan

/-! ## The walk -/

namespace Sql.Expr

mutual

/-- The nodes of an expression, operands before their operation and from left to right. The operand of a
form without a meaning is visited only if the walk goes `everywhere`. -/
def walk (everywhere : Bool) : Expr → List Expr
  | .binary op left right => left.walk everywhere ++ right.walk everywhere ++ [.binary op left right]
  | .unary op operand => operand.walk everywhere ++ [.unary op operand]
  | .isNull operand => operand.walk everywhere ++ [.isNull operand]
  | .isNotNull operand => operand.walk everywhere ++ [.isNotNull operand]
  | .isTrue operand => (if everywhere then operand.walk everywhere else []) ++ [.isTrue operand]
  | .nested inner => inner.walk everywhere ++ [.nested inner]
  | .between negated operand low high =>
    operand.walk everywhere ++ low.walk everywhere ++ high.walk everywhere ++
      [.between negated operand low high]
  | .inList negated operand list =>
    operand.walk everywhere ++ walkAll everywhere list ++ [.inList negated operand list]
  | .like negated any operand pattern escape =>
    operand.walk everywhere ++ pattern.walk everywhere ++ [.like negated any operand pattern escape]
  | .call name args clauses => walkAll everywhere args ++ [.call name args clauses]
  | leaf => [leaf]

/-- The nodes of expressions, one expression after the other. -/
def walkAll (everywhere : Bool) : List Expr → List Expr
  | [] => []
  | expr :: exprs => expr.walk everywhere ++ walkAll everywhere exprs

end

end Sql.Expr

namespace Expr

/-! ## Faults -/

/-- The column that a name means. -/
def column? (scope : Option Scope) (name : String) : Option Column :=
  scope.bind (·.find? name)

/-- The part of a name with qualifiers that counts. -/
def nameOf? (parts : List Sql.Ident) : Option Sql.Ident :=
  if parts.length ≤ 3 then parts.getLast? else none

/-- The value that a constant means. -/
def value? : Sql.Value → Option Scalar
  | .number digits _ => readNumber? digits
  | .string .plain value | .doubleQuoted value => some (.text value)
  | .boolean value => some (.boolean value)
  | .null => some .null
  | _ => none

/-- The operation that an operator means. -/
def operation? : Sql.BinaryOperator → Option BinaryOp
  | .plus => some .add
  | .minus => some .subtract
  | .multiply => some .multiply
  | .divide => some .divide
  | .modulo => some .modulo
  | .concat => some .concat
  | .eq => some .eq
  | .notEq => some .notEq
  | .lt => some .lt
  | .ltEq => some .ltEq
  | .gt => some .gt
  | .gtEq => some .gtEq
  | .and => some .and
  | .or => some .or
  | _ => none

/-- What is wrong with a name. -/
def nameFault? (scope : Option Scope) (name : String) : Option Error :=
  if (column? scope name).isSome then none else some (.columnNotFound name)

/-- What is wrong with a name with qualifiers. -/
def partsFault? (scope : Option Scope) (parts : List Sql.Ident) : Option Error :=
  match nameOf? parts with
  | some name => nameFault? scope name.value
  | none => some (.bind (.compoundIdentifier (Sql.dotted parts)))

/-- What is wrong with a constant. -/
def valueFault? (value : Sql.Value) : Option Error :=
  if (value? value).isSome then none
  else match value with
    | .number digits _ => some (.parse (.notANumber digits))
    | value => some (.notImplemented (.value value.shown))

/-- What is wrong with an operator between two operands. -/
def operatorFault? : Sql.BinaryOperator → Option Error
  | .xor => some (.notImplemented (.binaryOperator "Xor"))
  | .spaceship => some (.notImplemented (.binaryOperator "Spaceship"))
  | .bitOr => some (.notImplemented (.binaryOperator "BitwiseOr"))
  | .bitAnd => some (.notImplemented (.binaryOperator "BitwiseAnd"))
  | .bitXor => some (.notImplemented (.binaryOperator "BitwiseXor"))
  | .other _ name => some (.notImplemented (.binaryOperator name))
  | _ => none

/-- What is wrong with a node, whatever its operands are. -/
def fault? (scope : Option Scope) : Sql.Expr → Option Error
  | .ident name => nameFault? scope name.value
  | .compound parts => partsFault? scope parts
  | .constant value => valueFault? value
  | .binary op _ _ => operatorFault? op
  | .unary (.other _ name) _ => some (.notImplemented (.unaryOperator name))
  | .isTrue operand => some (.notImplemented (.expression (Sql.Expr.isTrue operand).text))
  | .queryCall _ _ => some (.notImplemented .subqueryArguments)
  | .argument text => some (.notImplemented (.argument text))
  | .subquery query => some (.notImplemented (.expression (Sql.Expr.subquery query).text))
  | .other text => some (.notImplemented (.expression text))
  | _ => none

/-! ## Meanings -/

/-- What stands for a node that has a fault. -/
def meaningless : Expr :=
  .literal .null

/-- The meaning of a name. -/
def nameMeaning (scope : Option Scope) (name : String) : Expr :=
  ((column? scope name).map .column).getD meaningless

/-- The meaning of a name with qualifiers. -/
def partsMeaning (scope : Option Scope) (parts : List Sql.Ident) : Expr :=
  ((nameOf? parts).map (nameMeaning scope ·.value)).getD meaningless

/-- The meaning of a constant. -/
def valueMeaning (value : Sql.Value) : Expr :=
  ((value? value).map .literal).getD meaningless

/-- The meaning of an operator between two operands. -/
def binaryMeaning (op : Sql.BinaryOperator) (left right : Expr) : Expr :=
  ((operation? op).map (.binary · left right)).getD meaningless

/-- The meaning of an operator before an operand. -/
def unaryMeaning : Sql.UnaryOperator → Expr → Expr
  | .not, operand => .unary .not operand
  | .minus, operand => .unary .negate operand
  | .plus, operand => operand
  | .other _ _, _ => meaningless

mutual

/-- The meaning of an expression, by the meanings of its operands. -/
def translate (scope : Option Scope) : Sql.Expr → Expr
  | .ident name => nameMeaning scope name.value
  | .compound parts => partsMeaning scope parts
  | .constant value => valueMeaning value
  | .binary op left right => binaryMeaning op (translate scope left) (translate scope right)
  | .unary op operand => unaryMeaning op (translate scope operand)
  | .isNull operand => .unary .isNull (translate scope operand)
  | .isNotNull operand => .unary .isNotNull (translate scope operand)
  | .nested inner => translate scope inner
  | .between negated operand low high =>
    .between negated (translate scope operand) (translate scope low) (translate scope high)
  | .inList negated operand list =>
    .inList negated (translate scope operand) (translateAll scope list)
  | .like negated _ operand pattern _ =>
    .binary (if negated then .notLike else .like) (translate scope operand) (translate scope pattern)
  | .call name args _ => .call (Text.uppercase (Sql.dotted name)) (translateAll scope args)
  | .bareCall name => .call (Text.uppercase (Sql.dotted name)) []
  | .isTrue _ | .queryCall _ _ | .argument _ | .subquery _ | .other _ => meaningless

/-- The meanings of expressions. -/
def translateAll (scope : Option Scope) : List Sql.Expr → List Expr
  | [] => []
  | expr :: exprs => translate scope expr :: translateAll scope exprs

end

mutual

/-- Whether the expression gives another name to an expression anywhere. -/
def hasAlias : Expr → Bool
  | .column _ => false
  | .literal _ => false
  | .binary _ left right => left.hasAlias || right.hasAlias
  | .unary _ operand => operand.hasAlias
  | .call _ args => anyHasAlias args
  | .inList _ operand list => operand.hasAlias || anyHasAlias list
  | .between _ operand low high => operand.hasAlias || low.hasAlias || high.hasAlias
  | .aliased _ _ => true

/-- Whether one of the expressions gives another name to an expression. -/
def anyHasAlias : List Expr → Bool
  | [] => false
  | expr :: exprs => expr.hasAlias || anyHasAlias exprs

end

/-! ## Verdicts -/

/-- The error, if there is one, and otherwise the value. -/
def verdict (error? : Option Error) (value : α) : Except Error α :=
  match error? with
  | some error => .error error
  | none => .ok value

/-- What binding an expression comes to: the first fault on the walk, or the meaning. -/
def reference (everywhere : Bool) (scope : Option Scope) (sql : Sql.Expr) : Except Error Expr :=
  verdict ((sql.walk everywhere).findSome? (fault? scope)) (translate scope sql)

theorem verdict_eq_ok {error? : Option Error} {value result : α} :
    verdict error? value = .ok result ↔ error? = none ∧ value = result := by
  cases error? with
  | none => simp [verdict]
  | some error => simp [verdict]

theorem verdict_eq_error {error? : Option Error} {value : α} {error : Error} :
    verdict error? value = .error error ↔ error? = some error := by
  cases error? with
  | none => simp [verdict]
  | some error => simp [verdict]

@[simp] theorem map_verdict (f : α → β) (error? : Option Error) (value : α) :
    f <$> verdict error? value = verdict error? (f value) := by
  cases error? <;> rfl

/-- In a sequence of verdicts the error of the first one counts before that of the second one. -/
@[simp] theorem verdict_bind (first second : Option Error) (value : α) (next : α → β) :
    (verdict first value >>= fun x => verdict second (next x)) =
      verdict (first.or second) (next value) := by
  cases first <;> rfl

/-! ## Names, constants and operators -/

theorem ofName_eq_verdict (scope : Option Scope) (name : String) :
    ofName scope name = verdict (nameFault? scope name) (nameMeaning scope name) := by
  unfold nameFault? nameMeaning
  cases scope with
  | none => rfl
  | some known =>
    have looked : column? (some known) name = known.find? name := rfl
    have resolved : ofName (some known) name = .column <$> known.resolve name := rfl
    rw [looked, resolved]
    unfold Scope.resolve
    cases known.find? name <;> rfl

theorem ofParts_eq_verdict (scope : Option Scope) (parts : List Sql.Ident) :
    ofParts scope parts = verdict (partsFault? scope parts) (partsMeaning scope parts) := by
  unfold ofParts partsFault? partsMeaning nameOf?
  cases parts.getLast? with
  | none =>
    rw [ite_self]
    rfl
  | some last =>
    by_cases few : parts.length ≤ 3
    · rw [if_pos few]
      exact (if_pos few).trans (ofName_eq_verdict scope last.value)
    · rw [if_neg few]
      exact if_neg few

theorem ofValue_eq_verdict (value : Sql.Value) :
    ofValue value = verdict (valueFault? value) (valueMeaning value) := by
  cases value with
  | number digits long =>
    have meant : value? (.number digits long) = readNumber? digits := rfl
    unfold ofValue valueFault? valueMeaning
    rw [meant]
    cases read : readNumber? digits <;> simp only [read] <;> rfl
  | string style text => cases style <;> rfl
  | _ => rfl

theorem map_ofOperator (op : Sql.BinaryOperator) (left right : Expr) :
    (fun operation => .binary operation left right) <$> ofOperator op =
      verdict (operatorFault? op) (binaryMeaning op left right) := by
  cases op <;> rfl

theorem applyUnary_eq_verdict (scope : Option Scope) (op : Sql.UnaryOperator) (sql : Sql.Expr)
    (operand : Expr) :
    applyUnary op operand = verdict (fault? scope (.unary op sql)) (unaryMeaning op operand) := by
  cases op <;> rfl

/-! ## Expressions

The induction is on the expression and on the lists in it. Each operand comes to its verdict; in sequence
their faults come in the order of the walk, and the fault of the node itself comes last. -/

mutual

/-- Binding an expression answers the first fault on the walk, or the meaning if there is none. -/
theorem ofSql_eq_reference (scope : Option Scope) : ∀ sql : Sql.Expr,
    ofSql scope sql = reference false scope sql
  | .ident name => by
    simp [ofSql, ofName_eq_verdict, reference, Sql.Expr.walk, fault?, translate]
  | .compound parts => by
    simp [ofSql, ofParts_eq_verdict, reference, Sql.Expr.walk, fault?, translate]
  | .constant value => by
    simp [ofSql, ofValue_eq_verdict, reference, Sql.Expr.walk, fault?, translate]
  | .binary op left right => by
    have hleft := ofSql_eq_reference scope left
    have hright := ofSql_eq_reference scope right
    simp [ofSql, hleft, hright, map_ofOperator, reference, Sql.Expr.walk, fault?, translate]
  | .unary op operand => by
    have hoperand := ofSql_eq_reference scope operand
    have happly := applyUnary_eq_verdict scope op operand
    simp [ofSql, hoperand, happly, reference, Sql.Expr.walk, translate]
  | .isNull operand => by
    have hoperand := ofSql_eq_reference scope operand
    simp [ofSql, hoperand, reference, Sql.Expr.walk, fault?, translate]
  | .isNotNull operand => by
    have hoperand := ofSql_eq_reference scope operand
    simp [ofSql, hoperand, reference, Sql.Expr.walk, fault?, translate]
  | .nested inner => by
    have hinner := ofSql_eq_reference scope inner
    simp [ofSql, hinner, reference, Sql.Expr.walk, fault?, translate]
  | .between negated operand low high => by
    have hoperand := ofSql_eq_reference scope operand
    have hlow := ofSql_eq_reference scope low
    have hhigh := ofSql_eq_reference scope high
    simp [ofSql, hoperand, hlow, hhigh, reference, Sql.Expr.walk, fault?, translate]
  | .inList negated operand list => by
    have hoperand := ofSql_eq_reference scope operand
    have hlist := ofSqlList_eq_verdict scope list
    simp [ofSql, hoperand, hlist, reference, Sql.Expr.walk, fault?, translate]
  | .like negated any operand pattern escape => by
    have hoperand := ofSql_eq_reference scope operand
    have hpattern := ofSql_eq_reference scope pattern
    simp [ofSql, hoperand, hpattern, reference, Sql.Expr.walk, fault?, translate]
  | .call name args clauses => by
    have hargs := ofSqlList_eq_verdict scope args
    simp [ofSql, hargs, function, reference, Sql.Expr.walk, fault?, translate]
  -- the others are leaves of the walk
  | .bareCall name => rfl
  | .isTrue operand => rfl
  | .queryCall name query => rfl
  | .argument text => rfl
  | .subquery query => rfl
  | .other text => rfl

theorem ofSqlList_eq_verdict (scope : Option Scope) : ∀ sqls : List Sql.Expr,
    ofSqlList scope sqls =
      verdict ((Sql.Expr.walkAll false sqls).findSome? (fault? scope)) (translateAll scope sqls)
  | [] => rfl
  | sql :: sqls => by
    have hfirst := ofSql_eq_reference scope sql
    have hrest := ofSqlList_eq_verdict scope sqls
    simp [ofSqlList, hfirst, hrest, reference, Sql.Expr.walkAll, translateAll]

end

/-! ## Lists

Expressions are bound each by itself. -/

theorem ofSql_of_ofSqlList {scope : Option Scope} {sqls : List Sql.Expr} {exprs : List Expr}
    (bound : ofSqlList scope sqls = .ok exprs) :
    List.Forall₂ (fun sql expr => ofSql scope sql = .ok expr) sqls exprs := by
  induction sqls generalizing exprs with
  | nil =>
    cases bound
    exact .nil
  | cons sql sqls ih =>
    simp only [ofSqlList, bind_eq_ok, pure_eq_ok] at bound
    obtain ⟨expr, hexpr, exprs, hexprs, rfl⟩ := bound
    exact .cons hexpr (ih hexprs)

/-! ## Aliases -/

theorem hasAlias_getD_map {make : α → Expr} (plain : ∀ value, (make value).hasAlias = false)
    (meaning? : Option α) : ((meaning?.map make).getD meaningless).hasAlias = false := by
  cases meaning? with
  | none => rfl
  | some value => exact plain value

theorem hasAlias_nameMeaning (scope : Option Scope) (name : String) :
    (nameMeaning scope name).hasAlias = false :=
  hasAlias_getD_map (fun _ => rfl) (column? scope name)

theorem hasAlias_unaryMeaning (op : Sql.UnaryOperator) {operand : Expr}
    (plain : operand.hasAlias = false) : (unaryMeaning op operand).hasAlias = false := by
  cases op with
  | not => exact plain
  | minus => exact plain
  | plus => exact plain
  | other symbol name => rfl

mutual

/-- The meaning of an expression renames nothing. -/
theorem hasAlias_translate (scope : Option Scope) : ∀ sql : Sql.Expr,
    (translate scope sql).hasAlias = false
  | .ident name => hasAlias_nameMeaning scope name.value
  | .compound parts => by
    have plain (name : Sql.Ident) := hasAlias_nameMeaning scope name.value
    rw [translate, partsMeaning]
    exact hasAlias_getD_map plain (nameOf? parts)
  | .constant value => by
    rw [translate, valueMeaning]
    exact hasAlias_getD_map (fun _ => rfl) (value? value)
  | .binary op left right => by
    have hleft := hasAlias_translate scope left
    have hright := hasAlias_translate scope right
    rw [translate, binaryMeaning]
    refine hasAlias_getD_map (fun operation => ?_) (operation? op)
    simp only [hasAlias, hleft, hright, Bool.or_false]
  | .unary op operand => hasAlias_unaryMeaning op (hasAlias_translate scope operand)
  | .isNull operand => hasAlias_translate scope operand
  | .isNotNull operand => hasAlias_translate scope operand
  | .nested inner => hasAlias_translate scope inner
  | .between negated operand low high => by
    have hoperand := hasAlias_translate scope operand
    have hlow := hasAlias_translate scope low
    have hhigh := hasAlias_translate scope high
    simp only [translate, hasAlias, hoperand, hlow, hhigh, Bool.or_false]
  | .inList negated operand list => by
    have hoperand := hasAlias_translate scope operand
    have hlist := anyHasAlias_translateAll scope list
    simp only [translate, hasAlias, hoperand, hlist, Bool.or_false]
  | .like negated any operand pattern escape => by
    have hoperand := hasAlias_translate scope operand
    have hpattern := hasAlias_translate scope pattern
    simp only [translate, hasAlias, hoperand, hpattern, Bool.or_false]
  | .call name args clauses => anyHasAlias_translateAll scope args
  | .bareCall name => rfl
  | .isTrue operand => rfl
  | .queryCall name query => rfl
  | .argument text => rfl
  | .subquery query => rfl
  | .other text => rfl

theorem anyHasAlias_translateAll (scope : Option Scope) : ∀ sqls : List Sql.Expr,
    anyHasAlias (translateAll scope sqls) = false
  | [] => rfl
  | sql :: sqls => by
    have hfirst := hasAlias_translate scope sql
    have hrest := anyHasAlias_translateAll scope sqls
    simp only [translateAll, anyHasAlias, hfirst, hrest, Bool.or_false]

end

/-! ## Binding in order -/

/-- A form without a meaning is refused before its operand is looked at: binding is not the walk that goes
everywhere. -/
theorem isTrue_refused_first :
    let sql := Sql.Expr.isTrue (.ident { value := "missing" })
    ofSql none sql = .error (.notImplemented (.expression "missing IS TRUE")) ∧
      reference true none sql = .error (.columnNotFound "missing") ∧
      ofSql none sql ≠ reference true none sql := by
  refine ⟨rfl, rfl, ?_⟩
  intro same
  cases same

/-- Binding an expression answers the fault of the first node on the walk that has one. If none has, it
answers the meaning of the expression, which renames nothing. -/
theorem ofSql_follows_walk (scope : Option Scope) (sql : Sql.Expr) :
    ofSql scope sql = reference false scope sql ∧ (translate scope sql).hasAlias = false :=
  ⟨ofSql_eq_reference scope sql, hasAlias_translate scope sql⟩

-- the tested expression counts before the list
example : ofSql none (.inList false (.ident { value := "a" }) [.ident { value := "b" }]) =
    .error (.columnNotFound "a") := rfl

end Expr

end VideoPlan
