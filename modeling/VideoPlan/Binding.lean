import VideoPlan.Expr
import VideoPlan.Number.Decimal
import VideoPlan.Scope
import VideoPlan.Sql.Expr

/-!
# Binding expressions

Binding resolves the names of an expression in a scope and reads its constants. Operands are bound before
their operation, from left to right, and the first failure counts. Where there is no scope, as in rows of
values, no name can be resolved.

Parentheses and the sign plus leave no trace. Of a call only the name and the arguments are kept, of LIKE
only the operands.
-/

namespace VideoPlan

open Number

namespace Expr

/-! ## Names and constants -/

/-- The column of a name. -/
def ofName (scope : Option Scope) (name : String) : Except Error Expr :=
  match scope with
  | some scope => .column <$> scope.resolve name
  | none => .error (.columnNotFound name)

/-- The column of a name with qualifiers. At most three parts mean a column of the only table that can be
meant; the qualifiers are not looked at. -/
def ofParts (scope : Option Scope) (parts : List Sql.Ident) : Except Error Expr :=
  match parts.getLast? with
  | some last =>
    if parts.length ≤ 3 then ofName scope last.value
    else .error (.bind (.compoundIdentifier (Sql.dotted parts)))
  | none => .error (.bind (.compoundIdentifier (Sql.dotted parts)))

/-- Digits as a number. -/
def readDigits? (cs : List Char) : Option Nat :=
  if cs.isEmpty || !cs.all Char.isDigit then none else some (ofDigits cs)

/-- An integer in 64 bits with a sign, if it fits. -/
def fitInteger? (n : Int) : Option Int64 :=
  let value := Int64.ofInt n
  if value.toInt = n then some value else none

/-- The integer of 64 bits that digits with an optional sign write. -/
def readInteger? : List Char → Option Int64
  | '-' :: cs => do fitInteger? (-(← readDigits? cs))
  | '+' :: cs => do fitInteger? (← readDigits? cs)
  | cs => do fitInteger? (← readDigits? cs)

/-- The number that a text writes: an integer if it can be one, then a decimal number, then a floating-point
number. -/
def readNumber? (digits : String) : Option Scalar :=
  let cs := digits.toList
  match readInteger? cs with
  | some value => some (.integer value)
  | none =>
    match Decimal.read? cs with
    | some value => some (.decimal value)
    | none => .float <$> Binary64.read? cs

/-- The constant that a constant of SQL is. -/
def ofValue : Sql.Value → Except Error Expr
  | .number digits _ =>
    match readNumber? digits with
    | some value => .ok (.literal value)
    | none => .error (.parse (.notANumber digits))
  | .string .plain value => .ok (.literal (.text value))
  | .doubleQuoted value => .ok (.literal (.text value))
  | .boolean value => .ok (.literal (.boolean value))
  | .null => .ok (.literal .null)
  | value => .error (.notImplemented (.value value.shown))

/-! ## Operators -/

/-- The failure of an operator that has no operation. -/
def unsupportedOperator (name : String) : Except Error BinaryOp :=
  .error (.notImplemented (.binaryOperator name))

/-- The operation of an operator. -/
def ofOperator : Sql.BinaryOperator → Except Error BinaryOp
  | .plus => .ok .add
  | .minus => .ok .subtract
  | .multiply => .ok .multiply
  | .divide => .ok .divide
  | .modulo => .ok .modulo
  | .concat => .ok .concat
  | .eq => .ok .eq
  | .notEq => .ok .notEq
  | .lt => .ok .lt
  | .ltEq => .ok .ltEq
  | .gt => .ok .gt
  | .gtEq => .ok .gtEq
  | .and => .ok .and
  | .or => .ok .or
  | .xor => unsupportedOperator "Xor"
  | .spaceship => unsupportedOperator "Spaceship"
  | .bitOr => unsupportedOperator "BitwiseOr"
  | .bitAnd => unsupportedOperator "BitwiseAnd"
  | .bitXor => unsupportedOperator "BitwiseXor"
  | .other _ name => unsupportedOperator name

/-- The operation of an operator before its operand. -/
def applyUnary (op : Sql.UnaryOperator) (operand : Expr) : Except Error Expr :=
  match op with
  | .not => .ok (.unary .not operand)
  | .minus => .ok (.unary .negate operand)
  | .plus => .ok operand
  | .other _ name => .error (.notImplemented (.unaryOperator name))

/-! ## Expressions -/

mutual

/-- Binds an expression. -/
def ofSql (scope : Option Scope) : Sql.Expr → Except Error Expr
  | .ident name => ofName scope name.value
  | .compound parts => ofParts scope parts
  | .constant value => ofValue value
  | .binary op left right => do
    let left ← ofSql scope left
    let right ← ofSql scope right
    return .binary (← ofOperator op) left right
  | .unary op operand => do applyUnary op (← ofSql scope operand)
  | .isNull operand => return .unary .isNull (← ofSql scope operand)
  | .isNotNull operand => return .unary .isNotNull (← ofSql scope operand)
  | .isTrue operand => throw (.notImplemented (.expression (Sql.Expr.isTrue operand).text))
  | .nested inner => ofSql scope inner
  | .between negated operand low high => do
    let operand ← ofSql scope operand
    let low ← ofSql scope low
    return .between negated operand low (← ofSql scope high)
  | .inList negated operand list => do
    let operand ← ofSql scope operand
    return .inList negated operand (← ofSqlList scope list)
  | .like negated _ operand pattern _ => do
    let operand ← ofSql scope operand
    return .binary (if negated then .notLike else .like) operand (← ofSql scope pattern)
  | .call name args _ => return function (Sql.dotted name) (← ofSqlList scope args)
  | .bareCall name => return function (Sql.dotted name) []
  | .queryCall _ _ => throw (.notImplemented .subqueryArguments)
  | .argument text => throw (.notImplemented (.argument text))
  | .subquery query => throw (.notImplemented (.expression (Sql.Expr.subquery query).text))
  | .other text => throw (.notImplemented (.expression text))

/-- Binds expressions from left to right. -/
def ofSqlList (scope : Option Scope) : List Sql.Expr → Except Error (List Expr)
  | [] => return []
  | expr :: exprs => do
    let expr ← ofSql scope expr
    return expr :: (← ofSqlList scope exprs)

end

/-! ## SELECT lists, predicates and rows -/

/-- Binds an item of a SELECT list. A wildcard stands for all columns of the scope, which must have
some. -/
def ofItem (scope : Option Scope) : Sql.SelectItem → Except Error (List Expr)
  | .plain expr => return [← ofSql scope expr]
  | .aliased expr label => return [.aliased (← ofSql scope expr) label.value]
  | .wildcard _ =>
    match scope.filter (!·.isEmpty) with
    | some scope => .ok (scope.columnsInOrder.map .column)
    | none => .error (.bind .wildcardWithoutTable)
  | .qualifiedWildcard name _ => .error (.notImplemented (.qualifiedWildcard (Sql.dotted name)))

/-- Binds the items of a SELECT list. -/
def ofItems (scope : Option Scope) : List Sql.SelectItem → Except Error (List Expr)
  | [] => return []
  | item :: items => do
    let exprs ← ofItem scope item
    return exprs ++ (← ofItems scope items)

/-- Binds a predicate, which must be BOOLEAN if its type is known. -/
def ofPredicate (scope : Scope) (predicate : Sql.Expr) : Except Error Expr := do
  let predicate ← ofSql (some scope) predicate
  match predicate.type? with
  | some .boolean => return predicate
  | some type => throw (.bind (.predicateType predicate.text type.keyword))
  | none => return predicate

/-- Binds rows of constants. -/
def ofRows : List (List Sql.Expr) → Except Error (List (List Expr))
  | [] => return []
  | row :: rows => do
    let row ← ofSqlList none row
    return row :: (← ofRows rows)

end Expr

end VideoPlan
