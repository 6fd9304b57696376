import VideoPlan.Sql.Reader.Grammar

/-!
# Reading calls

The arguments of a call with the clauses beside them, and the windows that a call may look through. A time
span is read here too, because the frame of a window may have one.
-/

namespace VideoPlan.Sql.Reader

/-! ## Units of time -/

/-- Words that name a unit behind a span of time. -/
def spanUnits : List String :=
  ["YEAR", "MONTH", "WEEK", "DAY", "HOUR", "MINUTE", "SECOND", "CENTURY", "DECADE", "DOW", "DOY", "EPOCH",
    "ISODOW", "ISOYEAR", "JULIAN", "MICROSECOND", "MICROSECONDS", "MILLENIUM", "MILLENNIUM",
    "MILLISECOND", "MILLISECONDS", "NANOSECOND", "NANOSECONDS", "QUARTER", "TIMEZONE", "TIMEZONE_HOUR",
    "TIMEZONE_MINUTE"]

/-- Other words that name a part of a moment. -/
def momentParts : List String :=
  ["DAYOFWEEK", "DAYOFYEAR", "DATE", "DATETIME", "ISOWEEK", "TIME", "TIMEZONE_ABBR", "TIMEZONE_REGION"]

/-- Reads a part of a moment. A word or a text that names none stands for itself. -/
def momentPart : Reader String := do
  if ← acceptKeyword "WEEK" then
    if (← peek? 0) = some .leftParen then return "WEEK(" ++ (← inParens identText) ++ ")"
    else return "WEEK"
  else match ← acceptOneOf (spanUnits ++ momentParts) with
    | some word => return word
    | none => identText

/-- Reads a number of digits in parentheses behind a blank, if a parenthesis comes next. -/
def optionalDigits : Reader String := do
  if (← peek? 0) = some .leftParen then return " (" ++ (← inParens wholeNumber) ++ ")" else return ""

/-- Reads the digits of seconds, before and behind the point. -/
def secondDigits : Reader String := do
  let digits : Reader String := do
    let whole ← wholeNumber
    if ← accept .comma then return whole ++ ", " ++ (← wholeNumber) else return whole
  if (← peek? 0) = some .leftParen then return " (" ++ (← inParens digits) ++ ")" else return ""

/-- Reads the units of a span of time whose amount has been read. -/
def spanBehind (amount : String) : Reader String := do
  let unit? ← do
    match ← peek? 0 with
    | some token =>
      if spanUnits.any token.isKeyword then pure (some (← momentPart)) else pure none
    | none => pure none
  let opening := "INTERVAL " ++ amount ++ clauseText "" unit?
  if unit? = some "SECOND" then return opening ++ (← secondDigits)
  else
    let digits ← optionalDigits
    if ← acceptKeyword "TO" then
      let last ← momentPart
      let places ← if last = "SECOND" then optionalDigits else pure ""
      return opening ++ digits ++ " TO " ++ last ++ places
    else return opening ++ digits

/-! ## Windows -/

/-- Reads the name of an order of letters behind `COLLATE`, if it comes next. -/
def optionalCollation : Reader String :=
  clauseBehind ["COLLATE"] objectText

/-- Reads how far an end of a window frame is. A text is a span of time. -/
def frameDistance (deeper : Grammar) : Reader String := do
  match ← peek? 0 with
  | some (.string .plain value) =>
    let _ ← next?
    spanBehind (quoted '\'' value ++ (← optionalCollation))
  | _ => exprText deeper

/-- Reads an end of a window frame. -/
def frameBound (deeper : Grammar) : Reader String := do
  if ← acceptKeywords ["CURRENT", "ROW"] then return "CURRENT ROW"
  else
    let distance ← if ← acceptKeyword "UNBOUNDED" then pure "UNBOUNDED" else frameDistance deeper
    return distance ++ " " ++ (← expectOneOf ["PRECEDING", "FOLLOWING"])

/-- Reads the frame of a window, if one comes next. -/
def optionalFrame (deeper : Grammar) : Reader (Option String) := do
  match ← acceptOneOf ["ROWS", "RANGE", "GROUPS"] with
  | none => return none
  | some units =>
    if ← acceptKeyword "BETWEEN" then
      let low ← frameBound deeper
      expectKeyword "AND"
      return some (units ++ " BETWEEN " ++ low ++ " AND " ++ (← frameBound deeper))
    else return some (units ++ " " ++ (← frameBound deeper))

/-- Reads what a window is in its parentheses. -/
def windowParts (deeper : Grammar) : Reader String := do
  let name ← do
    match ← peek? 0 with
    | some (.word value quote) =>
      if (Token.word value quote).isReserved then pure none else pure (some (← identText))
    | _ => pure none
  let partition ← clause ["PARTITION", "BY"] (exprTexts deeper)
  let order ← optionalOrderBy deeper
  let frame ← optionalFrame deeper
  return " ".intercalate (name.toList ++ partition.toList ++ order.toList ++ frame.toList)

/-- Reads a window, in parentheses or by its name. -/
def window (deeper : Grammar) : Reader String := do
  if (← peek? 0) = some .leftParen then return "(" ++ (← inParens (windowParts deeper)) ++ ")"
  else identText

/-! ## Arguments -/

/-- Reads an argument of a call. -/
def callArgument (deeper : Grammar) : Reader Expr := do
  let named (symbol : String) : Reader Expr := do
    let name ← identText
    expectSymbol symbol
    return .argument (name ++ " " ++ symbol ++ " " ++ (← starred deeper).text)
  match ← peek? 1 with
  | some (.operator "=>") => named "=>"
  | some (.operator ":=") => named ":="
  | _ => return (← starred deeper).asArgument

/-- Reads how nulls are treated, if that comes next. -/
def optionalNullTreatment : Reader (Option String) := do
  match ← acceptOneOf ["RESPECT", "IGNORE"] with
  | some word =>
    expectKeyword "NULLS"
    return some (word ++ " NULLS")
  | none => return none

/-- Reads what is written for the rows that are too many, if that comes next. -/
def optionalFiller (deeper : Grammar) : Reader String := do
  match ← peek? 0 with
  | some (.string .plain _) | some (.string .escaped _) | some (.string .unicode _)
  | some (.string .national _) | some (.string .hex _) => return " " ++ (← exprText deeper)
  | some token => if ["WITH", "WITHOUT"].any token.isKeyword then return "" else refuse
  | none => refuse

/-- Reads what a list does that grows too long, if that comes next. -/
def optionalOverflow (deeper : Grammar) : Reader (Option String) := do
  if ← acceptKeywords ["ON", "OVERFLOW"] then
    if ← acceptKeyword "ERROR" then return some "ON OVERFLOW ERROR"
    else
      expectKeyword "TRUNCATE"
      let filler ← optionalFiller deeper
      let count ← expectOneOf ["WITH", "WITHOUT"]
      expectKeyword "COUNT"
      return some ("ON OVERFLOW TRUNCATE" ++ filler ++ " " ++ count ++ " COUNT")
  else return none

/-- Reads the clauses behind the arguments of a call, except the treatment of nulls. -/
def argumentClauses (deeper : Grammar) : Reader (List String) := do
  let order ← optionalOrderBy deeper
  let limit ← clause ["LIMIT"] (exprText deeper)
  let bound ← clause ["HAVING"] do
    let extreme ← expectOneOf ["MIN", "MAX"]
    return extreme ++ " " ++ (← exprText deeper)
  let separator ← clause ["SEPARATOR"] constantText
  let overflow ← optionalOverflow deeper
  return order.toList ++ limit.toList ++ bound.toList ++ separator.toList ++ overflow.toList

/-- The arguments of a call with what stands beside them in the parentheses. -/
structure ArgumentList where
  duplicates : Option String := none
  args : List Expr := []
  nulls : Option String := none
  clauses : List String := []

/-- What stands behind the arguments in the parentheses. -/
def ArgumentList.inner (list : ArgumentList) : List String :=
  list.nulls.toList ++ list.clauses

/-- The arguments as they stand between the parentheses. -/
def ArgumentList.parameters (list : ArgumentList) : String :=
  CallClauses.around { duplicates := list.duplicates, inner := list.inner } [] (Expr.texts list.args)

/-- Reads the arguments of a call behind the opening parenthesis, with the closing one. -/
def argumentList (deeper : Grammar) : Reader ArgumentList := do
  if ← accept .rightParen then return {}
  else
    let all ← acceptKeyword "ALL"
    let distinct ← acceptKeyword "DISTINCT"
    if all && distinct then refuse
    else
      let duplicates := if all then some "ALL" else if distinct then some "DISTINCT" else none
      let args ← commaSeparated (callArgument deeper)
      let nulls ← optionalNullTreatment
      let clauses ← argumentClauses deeper
      expect .rightParen
      return { duplicates, args, nulls, clauses }

/-- Reads arguments alone behind the opening parenthesis, with the closing one, as their text. -/
def plainArguments (deeper : Grammar) : Reader String := do
  let args ← commaSeparatedUpTo .rightParen (callArgument deeper)
  expect .rightParen
  return "(" ++ exprList args ++ ")"

/-! ## Calls -/

/-- Reads a call behind its name and the opening parenthesis. -/
def callBehind (deeper : Grammar) (name : ObjectName) : Reader Expr := do
  let first ← argumentList deeper
  let (parameters, list) ← do
    if ← accept .leftParen then pure (first.parameters, ← argumentList deeper)
    else pure ("", first)
  let group ← do
    if ← acceptKeywords ["WITHIN", "GROUP"] then
      let items ← inParens do
        expectKeywords ["ORDER", "BY"]
        orderItems deeper
      pure (some ("WITHIN GROUP (ORDER BY " ++ items ++ ")"))
    else pure none
  let nulls ← if list.nulls.isSome then pure none else optionalNullTreatment
  let overWindow ← clause ["OVER"] (window deeper)
  return .call name list.args
    { parameters, duplicates := list.duplicates, inner := list.inner,
      outer := group.toList ++ nulls.toList ++ overWindow.toList }

end VideoPlan.Sql.Reader
