import VideoPlan.Sql.Constant
import VideoPlan.Sql.Operator

/-!
# Expressions of SQL

Expressions as they are written, before names are resolved. Forms that the grammar knows but that have no
meaning in a plan are kept as their text. `Expr.text` writes an expression in one normal form: reserved
words in upper case, single blanks, names as written.
-/

namespace VideoPlan.Sql

/-! ## Expressions -/

/-- What may be written in a call beside its arguments, as text. -/
structure CallClauses where
  /-- Arguments of the function itself, in parentheses before the others. -/
  parameters : String := ""
  /-- `DISTINCT` or `ALL` before the arguments. -/
  duplicates : Option String := none
  /-- Clauses behind the arguments, inside the parentheses. -/
  inner : List String := []
  /-- Clauses behind the parentheses, such as a window. -/
  outer : List String := []
deriving DecidableEq

/-- Whether the call has nothing but arguments. -/
def CallClauses.isPlain (clauses : CallClauses) : Bool :=
  clauses = {}

/-- An expression. -/
inductive Expr
  | ident (name : Ident)
  | compound (parts : List Ident)
  | constant (value : Value)
  | binary (op : BinaryOperator) (left right : Expr)
  | unary (op : UnaryOperator) (operand : Expr)
  | isNull (operand : Expr)
  | isNotNull (operand : Expr)
  | isTrue (operand : Expr)
  /-- An expression in parentheses. -/
  | nested (inner : Expr)
  | between (negated : Bool) (operand low high : Expr)
  | inList (negated : Bool) (operand : Expr) (list : List Expr)
  | like (negated any : Bool) (operand pattern : Expr) (escape : Option String)
  | call (name : ObjectName) (args : List Expr) (clauses : CallClauses)
  /-- A call without parentheses. -/
  | bareCall (name : ObjectName)
  /-- A call whose argument is the query of this text. -/
  | queryCall (name : ObjectName) (query : String)
  /-- An argument of a call that is no expression: `*`, `t.*` or `name => value`. -/
  | argument (text : String)
  /-- A query in parentheses, of this text. -/
  | subquery (query : String)
  /-- Any other form, as its text. -/
  | other (text : String)

/-- `NOT` before an operator. -/
def notText (negated : Bool) : String :=
  if negated then "NOT " else ""

/-- A call around the text of its arguments. -/
def CallClauses.around (clauses : CallClauses) (name : ObjectName) (args : List String) : String :=
  let duplicates := match clauses.duplicates with
    | some word => word ++ " "
    | none => ""
  let inner := String.join (clauses.inner.map (" " ++ ·))
  let outer := String.join (clauses.outer.map (" " ++ ·))
  dotted name ++ clauses.parameters ++ "(" ++ duplicates ++ commaList args ++ inner ++ ")" ++ outer

mutual

/-- An expression in normal form. -/
def Expr.text : Expr → String
  | .ident name => name.text
  | .compound parts => dotted parts
  | .constant value => value.text
  | .binary op left right => left.text ++ " " ++ op.symbol ++ " " ++ right.text
  | .unary .not operand => "NOT " ++ operand.text
  | .unary op operand => op.symbol ++ operand.text
  | .isNull operand => operand.text ++ " IS NULL"
  | .isNotNull operand => operand.text ++ " IS NOT NULL"
  | .isTrue operand => operand.text ++ " IS TRUE"
  | .nested inner => "(" ++ inner.text ++ ")"
  | .between negated operand low high =>
    operand.text ++ " " ++ notText negated ++ "BETWEEN " ++ low.text ++ " AND " ++ high.text
  | .inList negated operand list =>
    operand.text ++ " " ++ notText negated ++ "IN (" ++ commaList (Expr.texts list) ++ ")"
  | .like negated any operand pattern escape =>
    operand.text ++ " " ++ notText negated ++ "LIKE " ++ (if any then "ANY " else "") ++ pattern.text ++
      (match escape with
        | some c => " ESCAPE '" ++ c ++ "'"
        | none => "")
  | .call name args clauses => clauses.around name (Expr.texts args)
  | .bareCall name => dotted name
  | .queryCall name query => dotted name ++ "(" ++ query ++ ")"
  | .argument text => text
  | .subquery query => "(" ++ query ++ ")"
  | .other text => text

/-- Expressions in normal form. -/
def Expr.texts : List Expr → List String
  | [] => []
  | expr :: exprs => expr.text :: Expr.texts exprs

end

/-- Expressions in normal form, with commas between them. -/
def exprList (exprs : List Expr) : String :=
  commaList (Expr.texts exprs)

/-! ## Items of a SELECT list -/

/-- An item of a SELECT list. -/
inductive SelectItem
  | plain (expr : Expr)
  | aliased (expr : Expr) (label : Ident)
  /-- `*` with options such as `EXCEPT (…)`. -/
  | wildcard (options : String)
  /-- `name.*` with options. -/
  | qualifiedWildcard (name : ObjectName) (options : String)

/-- An item in normal form. -/
def SelectItem.text : SelectItem → String
  | .plain expr => expr.text
  | .aliased expr label => expr.text ++ " AS " ++ label.text
  | .wildcard options => "*" ++ options
  | .qualifiedWildcard name options => dotted name ++ ".*" ++ options

end VideoPlan.Sql
