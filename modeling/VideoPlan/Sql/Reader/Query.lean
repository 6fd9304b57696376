import VideoPlan.Sql.Reader.Change
import VideoPlan.Sql.Reader.Expr
import VideoPlan.Sql.Reader.Select

/-!
# Reading queries

A query is its body, a SELECT most often, with the clauses around it. `Reader.grammar` ties the readers
of expressions, queries and tables together: the grammar of a depth uses that of the depth below for
whatever is nested, and at depth zero nothing can be read.
-/

namespace VideoPlan.Sql

namespace Reader

/-! ## Bodies of queries -/

/-- Reads a table by its name as the body of a query. Three tokens are taken, whatever they are; the second
tells whether the first is a schema. -/
def tableBodyBehind : Reader Query := do
  let tokens ← get
  set (tokens.drop 3)
  match tokens with
  | .word schema _ :: .period :: .word table _ :: _ => return .other {} ("TABLE " ++ schema ++ "." ++ table)
  | _ :: .period :: _ => refuse
  | .word table _ :: _ => return .other {} ("TABLE " ++ table)
  | _ => refuse

/-- Reads a body that is no union. -/
def primaryBody (deeper : Grammar) : Reader Query := do
  if ← acceptKeyword "SELECT" then return .select {} (← selectBehind deeper)
  else if (← peek? 0) = some .leftParen then return .nested {} (← inParens deeper.query)
  else if ← acceptKeyword "VALUES" then
    let (explicitRow, rows) ← valueRows deeper
    return .values {} explicitRow rows
  else
    expectKeyword "TABLE"
    tableBodyBehind

/-- What a union does with rows that occur twice. -/
def setQuantifiers : List (List String) :=
  [["DISTINCT", "BY", "NAME"], ["BY", "NAME"], ["ALL", "BY", "NAME"], ["ALL"], ["DISTINCT"]]

/-- Reads bodies with these words between them, as one body. -/
def combined (operators : List String) (body : Reader Query) : Reader Query := do
  let first ← body
  let more ← whileSome do
    match ← acceptOneOf operators with
    | none => return none
    | some operator =>
      let quantifier ← acceptPhrase setQuantifiers
      return some (operator ++ clauseText "" quantifier ++ " " ++ (← body).text)
  if more.isEmpty then return first else return .other {} (first.text ++ clauseTexts more)

/-- Reads the body of a query; `INTERSECT` binds more tightly than `UNION` and `EXCEPT`. -/
def queryBody (deeper : Grammar) : Reader Query :=
  combined ["UNION", "EXCEPT"] (combined ["INTERSECT"] (primaryBody deeper))

/-! ## Clauses of queries -/

/-- Reads a named query. -/
def commonTable (deeper : Grammar) : Reader String := do
  let name ← identText
  let columns ← optionalIdentifiers
  expectKeyword "AS"
  let query ← inParens deeper.query
  let from? ← clauseBehind ["FROM"] identText
  return name ++ columnsText columns ++ " AS (" ++ query.text ++ ")" ++ from?

/-- Reads the named queries behind `WITH`. -/
def commonTables (deeper : Grammar) : Reader String := do
  let recursive ← openingWords ["RECURSIVE"]
  return "WITH " ++ recursive ++ (← commaTexts (commonTable deeper))

/-- Reads what stands in for the values that fill a gap, if that comes next. -/
def optionalInterpolation (deeper : Grammar) : Reader String := do
  let item : Reader String := do
    let name ← identText
    return name ++ (← clauseBehind ["AS"] (exprText deeper))
  if ← acceptKeyword "INTERPOLATE" then
    if ← accept .leftParen then
      let items ← commaSeparatedUpTo .rightParen item
      expect .rightParen
      return " INTERPOLATE (" ++ commaList items ++ ")"
    else return " INTERPOLATE"
  else return ""

/-- Reads ORDER BY of a query, if it comes next. -/
def queryOrder (deeper : Grammar) : Reader (Option String) :=
  clause ["ORDER", "BY"] do return (← orderItems deeper) ++ (← optionalInterpolation deeper)

/-- Reads where the rows of the answer start. -/
def offsetBehind (deeper : Grammar) : Reader String := do
  let rows ← exprText deeper
  return "OFFSET " ++ rows ++ clauseText "" (← acceptOneOf ["ROW", "ROWS"])

/-- Reads a limit and an offset, each if it comes next and was not read before. Two numbers behind `LIMIT`
are the offset and the limit. -/
def limitAndOffset (deeper : Grammar) (limit : Option Expr) (offset : Option String) :
    Reader (Option Expr × Option String) := do
  let limit ← do
    if limit.isSome then pure limit
    else if ← acceptKeyword "LIMIT" then limitBehind deeper
    else pure none
  let offset ← do
    if offset.isSome then pure offset else behindKeyword "OFFSET" (offsetBehind deeper)
  match limit, offset with
  | some first, none =>
    if ← accept .comma then
      return (some (← wholeExpr deeper), some ("OFFSET " ++ first.text))
    else return (limit, offset)
  | _, _ => return (limit, offset)

/-- Reads the number of rows behind `FETCH`. -/
def fetchBehind : Reader String := do
  let _ ← expectOneOf ["FIRST", "NEXT"]
  let quantity ← do
    if (← acceptOneOf ["ROW", "ROWS"]).isSome then pure ""
    else
      let rows ← constantText
      let percent ← closingWords ["PERCENT"]
      let _ ← expectOneOf ["ROW", "ROWS"]
      pure (" " ++ rows ++ percent)
  if ← acceptKeyword "ONLY" then return "FETCH FIRST" ++ quantity ++ " ROWS ONLY"
  else
    expectKeywords ["WITH", "TIES"]
    return "FETCH FIRST" ++ quantity ++ " ROWS WITH TIES"

/-! ## The form of the answer -/

/-- Reads a string in parentheses, if a parenthesis comes next. -/
def optionalElement : Reader String := do
  if (← peek? 0) = some .leftParen then return "('" ++ (← inParens literalString) ++ "')" else return ""

/-- Reads options behind commas until a comma is missing. A comma without an option is skipped. -/
def answerOptions (option : Reader (Option String)) : Reader (List String) := do
  let options ← whileSome do if ← accept .comma then return some (← option) else return none
  return options.filterMap id

/-- The last of the options that start so, behind a comma. -/
def lastOption (options : List String) (start : String) : String :=
  match (options.filter (·.startsWith start)).getLast? with
  | some option => ", " ++ option
  | none => ""

/-- Reads the root element of an answer, if it comes next. -/
def optionalRoot : Reader (Option String) :=
  behindKeyword "ROOT" do return "ROOT('" ++ (← inParens literalString) ++ "')"

/-- Reads the options of an answer as a tree of elements. -/
def elementsBehind : Reader String := do
  let kind ← expectOneOf ["RAW", "AUTO", "EXPLICIT", "PATH"]
  let element ← if kind = "RAW" || kind = "PATH" then optionalElement else pure ""
  let options ← answerOptions do
    if ← acceptKeyword "ELEMENTS" then return some "ELEMENTS"
    else if ← acceptKeyword "BINARY" then
      expectKeyword "BASE64"
      return some "BINARY BASE64"
    else if let some root ← optionalRoot then return some root
    else acceptOneOf ["TYPE"]
  return "FOR XML " ++ kind ++ element ++
    String.join (["BINARY", "TYPE", "ROOT", "ELEMENTS"].map (lastOption options))

/-- Reads the options of an answer as objects. -/
def objectsBehind : Reader String := do
  let kind ← expectOneOf ["AUTO", "PATH"]
  let options ← answerOptions do
    match ← optionalRoot with
    | some root => return some root
    | none => acceptOneOf ["INCLUDE_NULL_VALUES", "WITHOUT_ARRAY_WRAPPER"]
  return "FOR JSON " ++ kind ++
    String.join (["ROOT", "INCLUDE_NULL_VALUES", "WITHOUT_ARRAY_WRAPPER"].map (lastOption options))

/-- Reads a lock on the rows behind `FOR`. -/
def lockBehind : Reader String := do
  let strength ← expectOneOf ["UPDATE", "SHARE"]
  let table ← clauseBehind ["OF"] objectText
  return "FOR " ++ strength ++ table ++ clauseText "" (← acceptPhrase [["NOWAIT"], ["SKIP", "LOCKED"]])

/-- Reads the form of the answer behind `FOR`, if that is what follows. -/
def optionalForm : Reader (Option String) := do
  if ← acceptKeywords ["FOR", "XML"] then return some (← elementsBehind)
  else if ← acceptKeywords ["FOR", "JSON"] then return some (← objectsBehind)
  else if ← acceptKeywords ["FOR", "BROWSE"] then return some "FOR BROWSE"
  else return none

/-- Reads locks as long as they come next, and the form of the answer behind them. -/
def locksAndForm : Reader (List String) := do
  let locks ← whileSome do
    let ofForm := (← peekKeyword 1 "XML") || (← peekKeyword 1 "JSON") || (← peekKeyword 1 "BROWSE")
    if ofForm then return none else behindKeyword "FOR" lockBehind
  return locks ++ (← optionalForm).toList

/-- Reads the name of a format for the answer, if it comes next. -/
def optionalFormat : Reader (Option String) :=
  clause ["FORMAT"] do if ← acceptKeyword "NULL" then return "NULL" else identText

/-! ## Queries -/

/-- Reads the body of a query with the clauses behind it. -/
def bodyWithClauses (deeper : Grammar) (ctes : Option String) : Reader Query := do
  let body ← queryBody deeper
  let orderBy ← queryOrder deeper
  let (limit, offset) ← limitAndOffset deeper none none
  let (limit, offset) ← limitAndOffset deeper limit offset
  let groups ← clause ["BY"] (exprTexts deeper)
  let options ← clause ["SETTINGS"] settings
  let fetch ← behindKeyword "FETCH" fetchBehind
  let forms ← locksAndForm
  let format ← optionalFormat
  let others := groups.toList ++ options.toList ++ fetch.toList ++ forms ++ format.toList
  return body.withClauses { ctes, orderBy, limit, offset, others }

/-- Reads a query. An insertion or a change may stand in the place of its body. -/
def query (deeper : Grammar) : Reader Query := do
  let ctes ← behindKeyword "WITH" (commonTables deeper)
  if ← acceptKeyword "INSERT" then return .other { ctes } (← insertBehind deeper "INSERT").text
  else if ← acceptKeyword "UPDATE" then return .other { ctes } (← updateBehind deeper)
  else bodyWithClauses deeper ctes

/-! ## The grammar -/

/-- Nothing can be read any deeper. -/
def tooDeep : Reader α :=
  throw .tooDeep

/-- The grammar one level above `deeper`; `step` is the grammar of the same depth in a step of a
hierarchy. -/
def grammarAbove (deeper step : Grammar) : Grammar where
  expr := exprAbove deeper
  query := query deeper
  tables := tableWithJoins deeper
  step := exprAbove step
  inStep := deeper.inStep

/-- The grammars for what is nested at most `depth` levels, outside a step of a hierarchy and in one. -/
def grammars : Nat → Grammar × Grammar
  | 0 =>
    let nothing (inStep : Bool) : Grammar :=
      { expr := fun _ => tooDeep, query := tooDeep, tables := tooDeep, step := fun _ => tooDeep, inStep }
    (nothing false, nothing true)
  | depth + 1 =>
    let (plain, step) := grammars depth
    (grammarAbove plain step, grammarAbove step step)

/-- The grammar for what is nested at most `depth` levels. -/
def grammar (depth : Nat) : Grammar :=
  (grammars depth).1

end Reader

end VideoPlan.Sql
