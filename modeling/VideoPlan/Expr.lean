import VideoPlan.Catalog.Column
import VideoPlan.Number.Shortest
import VideoPlan.Text.Casing

/-!
# Expressions

Expressions whose names are resolved: a column is its entry in the catalog, a number is its value. Calls
of functions stay calls, under names in upper case. `Expr.text` writes an expression with parentheses
around every operation, and `Expr.type?` tells its type where that is known before anything is run.
-/

namespace VideoPlan

open Number

/-! ## Constants -/

/-- The value of a constant. -/
inductive Scalar
  | null
  | boolean (value : Bool)
  | integer (value : Int64)
  | float (value : Binary64)
  | decimal (value : Decimal)
  | text (value : String)
deriving DecidableEq

/-- The type of a constant; null has none. -/
def Scalar.type? : Scalar → Option ColumnType
  | .null => none
  | .boolean _ => some .boolean
  | .integer _ => some .integer
  | .float _ => some .float
  | .decimal _ => some .float
  | .text _ => some .text

/-- A truth value as plans show it. -/
def booleanText (value : Bool) : String :=
  if value then "true" else "false"

/-- A constant as plans show it; a text stands between quotes as it is. -/
def Scalar.shown : Scalar → String
  | .null => "NULL"
  | .boolean value => booleanText value
  | .integer value => toString value.toInt
  | .float value => value.text
  | .decimal value => value.text
  | .text value => "'" ++ value ++ "'"

/-! ## Operators -/

/-- An operation on two operands. -/
inductive BinaryOp
  | add
  | subtract
  | multiply
  | divide
  | modulo
  | eq
  | notEq
  | lt
  | ltEq
  | gt
  | gtEq
  | and
  | or
  | like
  | notLike
  | concat
deriving DecidableEq

/-- Whether the operation compares its operands. -/
def BinaryOp.isComparison : BinaryOp → Bool
  | .eq | .notEq | .lt | .ltEq | .gt | .gtEq | .like | .notLike => true
  | _ => false

/-- The symbol of an operation. -/
def BinaryOp.symbol : BinaryOp → String
  | .add => "+"
  | .subtract => "-"
  | .multiply => "*"
  | .divide => "/"
  | .modulo => "%"
  | .eq => "="
  | .notEq => "!="
  | .lt => "<"
  | .ltEq => "<="
  | .gt => ">"
  | .gtEq => ">="
  | .and => "AND"
  | .or => "OR"
  | .like => "LIKE"
  | .notLike => "NOT LIKE"
  | .concat => "||"

/-- An operation on one operand. -/
inductive UnaryOp
  | not
  | negate
  | isNull
  | isNotNull
deriving DecidableEq

/-! ## Expressions -/

/-- An expression. -/
inductive Expr
  | column (column : Column)
  | literal (value : Scalar)
  | binary (op : BinaryOp) (left right : Expr)
  | unary (op : UnaryOp) (operand : Expr)
  /-- A call of a function, whose name is in upper case. -/
  | call (name : String) (args : List Expr)
  | inList (negated : Bool) (operand : Expr) (list : List Expr)
  | between (negated : Bool) (operand low high : Expr)
  /-- An expression under another name. -/
  | aliased (operand : Expr) (name : String)

namespace Expr

/-- A call of the function of a name. -/
def function (name : String) (args : List Expr) : Expr :=
  .call (Text.uppercase name) args

/-- An operation on one operand as plans show it. -/
def unaryText : UnaryOp → String → String
  | .not, operand => "(NOT " ++ operand ++ ")"
  | .negate, operand => "(- " ++ operand ++ ")"
  | .isNull, operand => "(" ++ operand ++ " IS NULL)"
  | .isNotNull, operand => "(" ++ operand ++ " IS NOT NULL)"

/-- `NOT` before an operator. -/
def notText (negated : Bool) : String :=
  if negated then "NOT " else ""

mutual

/-- An expression as plans show it. -/
def text : Expr → String
  | .column entry => entry.name
  | .literal value => value.shown
  | .binary op left right => "(" ++ left.text ++ " " ++ op.symbol ++ " " ++ right.text ++ ")"
  | .unary op operand => unaryText op operand.text
  | .call name args => name ++ "(" ++ commaList (texts args) ++ ")"
  | .inList negated operand list =>
    operand.text ++ " " ++ notText negated ++ "IN (" ++ commaList (texts list) ++ ")"
  | .between negated operand low high =>
    operand.text ++ " " ++ notText negated ++ "BETWEEN " ++ low.text ++ " AND " ++ high.text
  | .aliased operand name => operand.text ++ " AS " ++ name

/-- Expressions as plans show them. -/
def texts : List Expr → List String
  | [] => []
  | expr :: exprs => expr.text :: texts exprs

end

/-- The name under which the value of an expression leaves a projection. -/
def outputName : Expr → String
  | .column entry => entry.name
  | .aliased _ name => name
  | .call name _ => name
  | expr => expr.text

/-! ## Types -/

/-- The type of an operation on numbers: FLOAT if an operand is, INTEGER if both are. -/
def numericType? : Option ColumnType → Option ColumnType → Option ColumnType
  | some .float, _ => some .float
  | _, some .float => some .float
  | some .integer, some .integer => some .integer
  | _, _ => none

/-- The type of an operation on operands of these types. -/
def binaryType? (op : BinaryOp) (left right : Option ColumnType) : Option ColumnType :=
  match op with
  | .and | .or => some .boolean
  | .concat => some .text
  | op => if op.isComparison then some .boolean else numericType? left right

/-- The type of an expression, if it is known before anything is run. What a function answers is not. -/
def type? : Expr → Option ColumnType
  | .column entry => some entry.type.base
  | .literal value => value.type?
  | .binary op left right => binaryType? op left.type? right.type?
  | .unary .negate operand => operand.type?
  | .unary _ _ => some .boolean
  | .call _ _ => none
  | .inList _ _ _ => some .boolean
  | .between _ _ _ _ => some .boolean
  | .aliased operand _ => operand.type?

/-! ## Calls -/

mutual

/-- Whether the expression calls a function anywhere. -/
def callsFunction : Expr → Bool
  | .column _ => false
  | .literal _ => false
  | .binary _ left right => left.callsFunction || right.callsFunction
  | .unary _ operand => operand.callsFunction
  | .call _ _ => true
  | .inList _ operand list => operand.callsFunction || anyCallsFunction list
  | .between _ operand low high => operand.callsFunction || low.callsFunction || high.callsFunction
  | .aliased operand _ => operand.callsFunction

/-- Whether one of the expressions calls a function. -/
def anyCallsFunction : List Expr → Bool
  | [] => false
  | expr :: exprs => expr.callsFunction || anyCallsFunction exprs

end

end Expr

end VideoPlan
