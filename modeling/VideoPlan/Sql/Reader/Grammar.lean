import VideoPlan.Sql.Query
import VideoPlan.Sql.Reader.Level

/-!
# Parts of the grammar

Whatever is nested deeper, in parentheses or as an operand, is read by the `Grammar` of the next level;
there is one for each level that is left, so nesting is bounded. The readers here read what occurs in many
places: lists of expressions, what rows are ordered by, and wildcards.
-/

namespace VideoPlan.Sql

/-- The readers for what is nested one level deeper. -/
structure Grammar where
  /-- Reads an expression whose operators bind more tightly than the given level. -/
  expr : Nat → Reader Expr
  /-- Reads a query. -/
  query : Reader Query
  /-- Reads a table with its joins. -/
  tables : Reader TableWithJoins
  /-- Reads an expression that tells how a hierarchy of rows goes on. -/
  step : Nat → Reader Expr
  /-- Whether all this is part of such an expression. -/
  inStep : Bool

namespace Reader

/-- Whether a query starts here. -/
def peekQuery : Reader Bool := do
  return (← peekKeyword 0 "SELECT") || (← peekKeyword 0 "WITH")

/-- Reads an expression with all its operators. -/
def wholeExpr (deeper : Grammar) : Reader Expr :=
  deeper.expr 0

/-- Reads an expression with all its operators, as its text. -/
def exprText (deeper : Grammar) : Reader String := do
  return (← wholeExpr deeper).text

/-- Reads expressions with commas between them. -/
def exprs (deeper : Grammar) : Reader (List Expr) :=
  commaSeparated (wholeExpr deeper)

/-- Reads expressions with commas between them, as one text. -/
def exprTexts (deeper : Grammar) : Reader String :=
  commaTexts (exprText deeper)

/-- Reads a query in parentheses behind the opening one, as its text. -/
def queryBehind (deeper : Grammar) : Reader String := do
  let query ← deeper.query
  expect .rightParen
  return query.text

/-! ## Orders -/

/-- Reads how the gaps between values are filled, if that comes next. -/
def optionalFill (deeper : Grammar) : Reader String := do
  if ← acceptKeywords ["WITH", "FILL"] then
    let first ← clauseBehind ["FROM"] (exprText deeper)
    let last ← clauseBehind ["TO"] (exprText deeper)
    return " WITH FILL" ++ first ++ last ++ (← clauseBehind ["STEP"] (exprText deeper))
  else return ""

/-- Reads an item of ORDER BY. -/
def orderItem (deeper : Grammar) : Reader String := do
  let expr ← exprText deeper
  let direction ← acceptOneOf ["ASC", "DESC"]
  let nulls ← acceptPhrase [["NULLS", "FIRST"], ["NULLS", "LAST"]]
  return expr ++ clauseText "" direction ++ clauseText "" nulls ++ (← optionalFill deeper)

/-- Reads the items of ORDER BY. -/
def orderItems (deeper : Grammar) : Reader String :=
  commaTexts (orderItem deeper)

/-- Reads ORDER BY with its items, if it comes next. -/
def optionalOrderBy (deeper : Grammar) : Reader (Option String) :=
  clause ["ORDER", "BY"] (orderItems deeper)

/-! ## Wildcards -/

/-- What stands where an expression or a wildcard may. -/
inductive Starred
  | star
  | qualified (name : ObjectName)
  | plain (expr : Expr)

/-- The name before `.*` and the tokens behind it. A name that goes on in another way is refused, one that
ends is no wildcard. -/
def qualifiedStar? (parts : List Ident) :
    List Token → Except ParseFault (Option (ObjectName × List Token))
  | .period :: .word value quote :: rest => qualifiedStar? (parts ++ [⟨value, quote⟩]) rest
  | .period :: .string .plain value :: rest => qualifiedStar? (parts ++ [⟨value, some '\''⟩]) rest
  | .period :: .operator "*" :: rest => .ok (some (parts, rest))
  | .period :: _ => .error .refused
  | _ => .ok none

/-- Reads an expression, `*` or `name.*`. -/
def starred (deeper : Grammar) : Reader Starred := do
  let qualified? (first : Ident) (rest : List Token) : Reader Starred := do
    match ← qualifiedStar? [first] rest with
    | some (name, rest) =>
      set rest
      return .qualified name
    | none => return .plain (← wholeExpr deeper)
  match ← get with
  | .operator "*" :: rest =>
    set rest
    return .star
  | .word value quote :: rest => qualified? ⟨value, quote⟩ rest
  | .string .plain value :: rest => qualified? ⟨value, some '\''⟩ rest
  | _ => return .plain (← wholeExpr deeper)

/-- The text of an expression or a wildcard. -/
def Starred.text : Starred → String
  | .star => "*"
  | .qualified name => dotted name ++ ".*"
  | .plain expr => expr.text

/-- An argument that is an expression or a wildcard. -/
def Starred.asArgument : Starred → Expr
  | .plain expr => expr
  | other => .argument other.text

end Reader

end VideoPlan.Sql
