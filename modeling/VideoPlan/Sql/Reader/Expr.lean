import VideoPlan.Sql.Reader.Operand

/-!
# Reading expressions

Expressions are read by precedence: an operand, then operators as long as they bind more tightly than
what stands before.
-/

namespace VideoPlan.Sql.Reader

/-! ## Operators that are words -/

/-- Reads what `IS` says of an operand. -/
def isBehind (deeper : Grammar) (left : Expr) : Reader Expr := do
  let negated ← acceptKeyword "NOT"
  if ← acceptKeyword "NULL" then return if negated then .isNotNull left else .isNull left
  else if ← acceptKeyword "TRUE" then
    return if negated then .other (left.text ++ " IS NOT TRUE") else .isTrue left
  else if let some word ← acceptOneOf ["FALSE", "UNKNOWN"] then
    return .other (left.text ++ " IS " ++ notText negated ++ word)
  else
    expectKeywords ["DISTINCT", "FROM"]
    return .other (left.text ++ " IS " ++ notText negated ++ "DISTINCT FROM " ++ (← exprText deeper))

/-- Reads the list, the query or the array behind `IN`. -/
def inBehind (deeper : Grammar) (left : Expr) (negated : Bool) : Reader Expr := do
  let opening := left.text ++ " " ++ notText negated ++ "IN "
  if ← acceptKeyword "UNNEST" then
    return .other (opening ++ "UNNEST(" ++ (← inParens (exprText deeper)) ++ ")")
  else
    expect .leftParen
    if ← peekQuery then return .other (opening ++ "(" ++ (← queryBehind deeper) ++ ")")
    else
      let list ← exprs deeper
      expect .rightParen
      return .inList negated left list

/-- Reads the bounds behind `BETWEEN`. -/
def betweenBehind (deeper : Grammar) (left : Expr) (negated : Bool) : Reader Expr := do
  let low ← deeper.expr Level.comparison
  expectKeyword "AND"
  return .between negated left low (← deeper.expr Level.comparison)

/-- Reads the pattern behind an operator of the kind of LIKE, with the escape character. -/
def patternBehind (deeper : Grammar) : Reader (Expr × Option String) := do
  let pattern ← deeper.expr Level.like
  return (pattern, ← behindKeyword "ESCAPE" literalString)

/-- The text of an operator of the kind of LIKE with its operands; the operator brings the blank behind
it. -/
def patternText (left : Expr) (operator : String) (pattern : Expr) (escape : Option String) : String :=
  left.text ++ " " ++ operator ++ pattern.text ++
    (match escape with
      | some c => " ESCAPE '" ++ c ++ "'"
      | none => "")

/-- What stands between `ILIKE` and its pattern: an escape takes the place of the blank behind `ANY`. -/
def anyText (any : Bool) (escape : Option String) : String :=
  if !any then " " else if escape.isSome then " ANY" else " ANY "

/-- Reads on behind `REGEXP` or `RLIKE`. The second word may follow the first. -/
def regularBehind (deeper : Grammar) (left : Expr) (opening : String) : Reader Expr := do
  return .other (patternText left (opening ++ " ") (← deeper.expr Level.like) none)

/-- Reads an operator that may stand behind `NOT`, with what stands behind it. -/
def negatableBehind (deeper : Grammar) (left : Expr) : Reader Expr := do
  let negated ← acceptKeyword "NOT"
  if ← acceptKeyword "REGEXP" then
    let _ ← acceptKeyword "RLIKE"
    regularBehind deeper left (notText negated ++ "REGEXP")
  else if ← acceptKeyword "RLIKE" then regularBehind deeper left (notText negated ++ "RLIKE")
  else if ← acceptKeyword "IN" then inBehind deeper left negated
  else if ← acceptKeyword "BETWEEN" then betweenBehind deeper left negated
  else if ← acceptKeyword "LIKE" then
    let any ← acceptKeyword "ANY"
    let (pattern, escape) ← patternBehind deeper
    return .like negated any left pattern escape
  else if ← acceptKeyword "ILIKE" then
    let any ← acceptKeyword "ANY"
    let (pattern, escape) ← patternBehind deeper
    return .other (patternText left (notText negated ++ "ILIKE" ++ anyText any escape) pattern escape)
  else
    expectKeywords ["SIMILAR", "TO"]
    let (pattern, escape) ← patternBehind deeper
    return .other (patternText left (notText negated ++ "SIMILAR TO ") pattern escape)

/-- Reads the time zone behind the word `AT`. -/
def timeZoneBehind (deeper : Grammar) (left : Expr) : Reader Expr := do
  expectKeywords ["TIME", "ZONE"]
  return .other (left.text ++ " AT TIME ZONE " ++ (← deeper.expr Level.timeZone).text)

/-! ## Subscripts -/

/-- Reads what stands between square brackets behind an operand, with the closing one: an index or a slice
of up to three bounds. -/
def subscriptBehind (deeper : Grammar) : Reader String := do
  let optionalBound : Reader (Option String) := do
    if ← acceptSymbol "]" then return none else return some (← exprText deeper)
  let low ← if ← acceptSymbol ":" then pure none else pure (some (← exprText deeper))
  if ← acceptSymbol "]" then return low.getD ":"
  else
    if low.isSome then expectSymbol ":"
    match ← optionalBound with
    | none => return low.getD "" ++ ":"
    | some high =>
      let slice := low.getD "" ++ ":" ++ high
      if ← acceptSymbol "]" then return slice
      else
        expectSymbol ":"
        match ← optionalBound with
        | none => return slice
        | some stride =>
          expectSymbol "]"
          return slice ++ ":" ++ stride

/-! ## Operators that are symbols -/

/-- Reads the parts of an operator that is written out in parentheses. -/
def writtenOperator : Reader BinaryOperator :=
  inParens do
    let part : Reader String := do
      match ← next? with
      | some token => return token.shown
      | none => refuse
    return .written (← separatedBy .period part)

/-- Takes the operator between two operands that comes next, if one does. -/
def acceptBinary : Reader (Option BinaryOperator) := do
  if ← acceptKeyword "AND" then return some .and
  else if ← acceptKeyword "OR" then return some .or
  else if ← acceptKeyword "XOR" then return some .xor
  else if ← acceptKeyword "OPERATOR" then return some (← writtenOperator)
  else
    match ← peek? 0 with
    | some (.operator symbol) =>
      match BinaryOperator.ofSymbol? symbol with
      | some op =>
        let _ ← next?
        return some op
      | none => return none
    | _ => return none

/-- Reads the right operand of an operator. Behind `ANY`, `ALL` or `SOME` it stands in parentheses. -/
def rightBehind (deeper : Grammar) (level : Nat) (left : Expr) (op : BinaryOperator) : Reader Expr := do
  match ← acceptOneOf ["ANY", "ALL", "SOME"] with
  | none => return .binary op left (← deeper.expr level)
  | some quantifier =>
    let opening := left.text ++ " " ++ op.symbol ++ " " ++ quantifier
    let inParens? := (← peek? 0) = some .leftParen
    let ofQuery := (← peekKeyword 1 "SELECT") || (← peekKeyword 1 "WITH")
    if !inParens? || !op.compares then refuse
    else if ofQuery then
      match ← deeper.expr level with
      | .subquery query => return .other (opening ++ "(" ++ query ++ ")")
      | right => return .other (opening ++ "(" ++ right.text ++ ")")
    else
      let right ← inParens (deeper.expr level)
      return .other (opening ++ "(" ++ right.text ++ ")")

/-- Reads the operator of this level that comes next, with what stands behind it. -/
def operatorBehind (deeper : Grammar) (level : Nat) (left : Expr) : Reader Expr := do
  if let some op ← acceptBinary then rightBehind deeper level left op
  else if ← acceptSymbol "::" then return .other (left.text ++ "::" ++ (← typeName))
  else if ← acceptSymbol "[" then return .other (left.text ++ "[" ++ (← subscriptBehind deeper) ++ "]")
  else if ← acceptKeyword "IS" then isBehind deeper left
  else if ← acceptKeyword "AT" then timeZoneBehind deeper left
  else negatableBehind deeper left

/-- Reads operators behind `left` as long as they bind more tightly than the level. Each takes at least
one token. -/
def operatorsBehind (deeper : Grammar) (level : Nat) (left : Expr) : Reader Expr := fun tokens =>
  if nextLevel tokens ≤ level then .ok (left, tokens)
  else
    match operatorBehind deeper (nextLevel tokens) left tokens with
    | .error fault => .error fault
    | .ok (expr, rest) =>
      if _h : rest.length < tokens.length then operatorsBehind deeper level expr rest
      else .error .refused
termination_by tokens => tokens.length

/-- Reads an expression whose operators bind more tightly than the level. -/
def exprAbove (deeper : Grammar) (level : Nat) : Reader Expr := do
  operatorsBehind deeper level (← operand deeper)

end VideoPlan.Sql.Reader
