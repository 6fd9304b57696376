import VideoPlan.Sql.Reader.Item
import VideoPlan.Sql.Reader.Table

/-!
# Reading SELECT

A SELECT is its list of items with the clauses behind it, each of which may be missing but none of which may
come before an earlier one.
-/

namespace VideoPlan.Sql.Reader

/-! ## Which rows -/

/-- Reads `ALL` or `DISTINCT` with its columns behind `SELECT`. -/
def optionalDistinct (deeper : Grammar) : Reader (Option String) := do
  let all ← acceptKeyword "ALL"
  if ← acceptKeyword "DISTINCT" then
    if all then refuse
    else if ← acceptKeyword "ON" then
      let columns ← inParens (commaSeparatedUpTo .rightParen (exprText deeper))
      return some ("DISTINCT ON (" ++ commaList columns ++ ")")
    else return some "DISTINCT"
  else return none

/-- Reads the number of rows behind `TOP`. -/
def topRows (deeper : Grammar) : Reader String := do
  let quantity ← do
    if (← peek? 0) = some .leftParen then pure ("(" ++ (← inParens (exprText deeper)) ++ ")")
    else wholeNumber
  let percent ← closingWords ["PERCENT"]
  return quantity ++ percent ++ (← closingWords ["WITH", "TIES"])

/-- Reads the table that takes the rows of a query. -/
def intoTable : Reader String := do
  let temporary := if (← acceptOneOf ["TEMP", "TEMPORARY"]).isSome then "TEMPORARY " else ""
  let unlogged ← openingWords ["UNLOGGED"]
  let table ← openingWords ["TABLE"]
  return temporary ++ unlogged ++ table ++ (← objectText)

/-- Words that end a list of names of columns that a view adds. -/
def notViewAliases : List String :=
  ["WHERE", "GROUP", "CLUSTER", "HAVING", "LATERAL"]

/-- Reads rows that are added to each row, if they come next. -/
def optionalLateralView (deeper : Grammar) : Reader (Option String) := do
  if ← acceptKeywords ["LATERAL", "VIEW"] then
    let outer ← closingWords ["OUTER"]
    let rows ← exprText deeper
    let name ← objectText
    let columns ← commaSeparated (optionalAlias notViewAliases)
    let names := columns.filterMap id
    let labels := if names.isEmpty then none else some (identList names)
    return some ("LATERAL VIEW" ++ outer ++ " " ++ rows ++ " " ++ name ++ labelText labels)
  else return none

/-! ## How rows are brought together -/

/-- Reads expressions in parentheses, or none. -/
def tuple (deeper : Grammar) : Reader (List String) :=
  inParens (commaSeparatedUpTo .rightParen (exprText deeper))

/-- A list of expressions in parentheses, which one alone does not need. -/
def tupleText : List String → String
  | [expr] => expr
  | exprs => "(" ++ commaList exprs ++ ")"

/-- Reads a list of expressions, which one alone may be without parentheses. -/
def looseTuple (deeper : Grammar) : Reader String := do
  if (← peek? 0) = some .leftParen then return tupleText (← tuple deeper) else exprText deeper

/-- Reads what rows are grouped by. -/
def groupingItem (deeper : Grammar) : Reader String := do
  if ← acceptKeywords ["GROUPING", "SETS"] then
    return "GROUPING SETS " ++ (← parenTexts do return "(" ++ commaList (← tuple deeper) ++ ")")
  else if let some word ← acceptOneOf ["CUBE", "ROLLUP"] then
    return word ++ " " ++ (← parenTexts (looseTuple deeper))
  else if (← peek? 0) = some .leftParen && (← peek? 1) = some .rightParen then
    let _ ← next?
    let _ ← next?
    return "()"
  else exprText deeper

/-- Reads GROUP BY, if it comes next. -/
def optionalGroupBy (deeper : Grammar) : Reader (Option String) :=
  clause ["GROUP", "BY"] do
    let items ← if ← acceptKeyword "ALL" then pure "ALL" else commaTexts (groupingItem deeper)
    let modifiers ← whileSome (clause ["WITH"] (expectOneOf ["ROLLUP", "CUBE", "TOTALS"]))
    return items ++ clauseTexts modifiers

/-- Reads the clauses that bring rows together, each if it comes next. -/
def groupingClauses (deeper : Grammar) : Reader (List String) := do
  let group ← optionalGroupBy deeper
  let cluster ← clause ["CLUSTER", "BY"] (exprTexts deeper)
  let distribute ← clause ["DISTRIBUTE", "BY"] (exprTexts deeper)
  let sort ← clause ["SORT", "BY"] (exprTexts deeper)
  return group.toList ++ cluster.toList ++ distribute.toList ++ sort.toList

/-! ## Windows and hierarchies -/

/-- Reads windows with their names behind `WINDOW`. -/
def namedWindows (deeper : Grammar) : Reader String :=
  commaTexts do
    let name ← identText
    expectKeyword "AS"
    return name ++ " AS " ++ (← window deeper)

/-- Reads WINDOW and QUALIFY in either order, each if it comes next. -/
def windowClauses (deeper : Grammar) : Reader (List String) := do
  match ← clause ["WINDOW"] (namedWindows deeper) with
  | some windows => return windows :: (← clause ["QUALIFY"] (exprText deeper)).toList
  | none =>
    match ← clause ["QUALIFY"] (exprText deeper) with
    | some qualify => return qualify :: (← clause ["WINDOW"] (namedWindows deeper)).toList
    | none => return []

/-- Reads where a hierarchy of rows starts and how it goes on, in either order, if that comes next. -/
def optionalHierarchy (deeper : Grammar) : Reader (Option String) := do
  let start : Reader String := do
    expectKeywords ["START", "WITH"]
    return "START WITH " ++ (← exprText deeper)
  let steps : Reader String := commaTexts do return (← deeper.step 0).text
  if (← peekKeyword 0 "CONNECT") && (← peekKeyword 1 "BY") then
    expectKeywords ["CONNECT", "BY"]
    let step ← steps
    return some ((← start) ++ " CONNECT BY " ++ step)
  else if (← peekKeyword 0 "START") || (← peekKeyword 0 "CONNECT") then
    let first ← start
    expectKeywords ["CONNECT", "BY"]
    return some (first ++ " CONNECT BY " ++ (← steps))
  else return none

/-! ## SELECT -/

/-- Reads a SELECT behind its first word. -/
def selectBehind (deeper : Grammar) : Reader Select := do
  let distinct ← optionalDistinct deeper
  let top ← behindKeyword "TOP" (topRows deeper)
  let items ← commaSeparated (selectItem deeper)
  let into ← behindKeyword "INTO" intoTable
  let tables ← behindKeyword "FROM" (commaSeparated (tableWithJoins deeper))
  let views ← whileSome (optionalLateralView deeper)
  let prewhere ← clause ["PREWHERE"] (exprText deeper)
  let filter ← behindKeyword "WHERE" (wholeExpr deeper)
  let grouping ← groupingClauses deeper
  let having ← behindKeyword "HAVING" (wholeExpr deeper)
  let windows ← windowClauses deeper
  let hierarchy ← optionalHierarchy deeper
  return { distinct, top, items, into, tables := tables.getD [], early := views ++ prewhere.toList, filter,
           grouping, having, late := windows ++ hierarchy.toList }

end VideoPlan.Sql.Reader
