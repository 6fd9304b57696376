import VideoPlan.Sql.Name
import VideoPlan.Text.Escaped

/-!
# Operators of SQL

The operators between two operands and before one, with their symbols and the names that messages use for
those that have no operation in a plan.
-/

namespace VideoPlan.Sql

/-- An operator between two operands. -/
inductive BinaryOperator
  | plus
  | minus
  | multiply
  | divide
  | modulo
  | concat
  | gt
  | lt
  | gtEq
  | ltEq
  | spaceship
  | eq
  | notEq
  | and
  | or
  | xor
  | bitOr
  | bitAnd
  | bitXor
  /-- An operator outside the standard, by its symbol and its name in messages. -/
  | other (symbol name : String)
deriving DecidableEq

namespace BinaryOperator

/-- The symbol of an operator. -/
def symbol : BinaryOperator → String
  | plus => "+"
  | minus => "-"
  | multiply => "*"
  | divide => "/"
  | modulo => "%"
  | concat => "||"
  | gt => ">"
  | lt => "<"
  | gtEq => ">="
  | ltEq => "<="
  | spaceship => "<=>"
  | eq => "="
  | notEq => "<>"
  | and => "AND"
  | or => "OR"
  | xor => "XOR"
  | bitOr => "|"
  | bitAnd => "&"
  | bitXor => "^"
  | other symbol _ => symbol

/-- Whether an operator compares its operands by order or equality. -/
def compares : BinaryOperator → Bool
  | gt | lt | gtEq | ltEq | eq | notEq => true
  | _ => false

end BinaryOperator

/-- The symbols of operators outside the standard, and their names in messages. -/
def rareOperators : List (String × String) :=
  [("//", "DuckIntegerDivide"), ("<<", "PGBitwiseShiftLeft"), (">>", "PGBitwiseShiftRight"),
    ("&&", "PGOverlap"), ("^@", "PGStartsWith"), ("~", "PGRegexMatch"), ("~*", "PGRegexIMatch"),
    ("!~", "PGRegexNotMatch"), ("!~*", "PGRegexNotIMatch"), ("~~", "PGLikeMatch"),
    ("~~*", "PGILikeMatch"), ("!~~", "PGNotLikeMatch"), ("!~~*", "PGNotILikeMatch"), ("->", "Arrow"),
    ("->>", "LongArrow"), ("#>", "HashArrow"), ("#>>", "HashLongArrow"), ("@>", "AtArrow"),
    ("<@", "ArrowAt"), ("#-", "HashMinus"), ("@?", "AtQuestion"), ("@@", "AtAt")]

/-- The operator that a symbol stands for; two equal signs are one. -/
def BinaryOperator.ofSymbol? : String → Option BinaryOperator
  | "+" => some .plus
  | "-" => some .minus
  | "*" => some .multiply
  | "/" => some .divide
  | "%" => some .modulo
  | "||" => some .concat
  | ">" => some .gt
  | "<" => some .lt
  | ">=" => some .gtEq
  | "<=" => some .ltEq
  | "<=>" => some .spaceship
  | "=" => some .eq
  | "==" => some .eq
  | "<>" => some .notEq
  | "|" => some .bitOr
  | "&" => some .bitAnd
  | "^" => some .bitXor
  | symbol => (rareOperators.lookup symbol).map (.other symbol)

/-- An operator that is written out, with its qualifiers. -/
def BinaryOperator.written (parts : List String) : BinaryOperator :=
  .other ("OPERATOR(" ++ ".".intercalate parts ++ ")")
    ("PGCustomBinaryOperator([" ++ commaList (parts.map Text.escaped) ++ "])")

/-- An operator before its operand. -/
inductive UnaryOperator
  | not
  | minus
  | plus
  /-- An operator outside the standard, by its symbol and its name in messages. -/
  | other (symbol name : String)
deriving DecidableEq

namespace UnaryOperator

/-- The operator that turns each bit over. -/
def bitNot : UnaryOperator :=
  other "~" "PGBitwiseNot"

/-- The symbol of an operator. -/
def symbol : UnaryOperator → String
  | not => "NOT"
  | minus => "-"
  | plus => "+"
  | other symbol _ => symbol

end UnaryOperator

end VideoPlan.Sql
