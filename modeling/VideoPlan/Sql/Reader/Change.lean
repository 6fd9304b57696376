import VideoPlan.Sql.Reader.Item
import VideoPlan.Sql.Reader.Table

/-!
# Reading insertions, changes and removals

An insertion keeps its table, its columns and the query that its rows come from. Of UPDATE and DELETE only
the text matters. All of them may also be the body of a query.
-/

namespace VideoPlan.Sql.Reader

/-! ## Assignments -/

/-- Reads an assignment of an expression to a column or to several in parentheses. -/
def assignment (deeper : Grammar) : Reader String := do
  let target ← if (← peek? 0) = some .leftParen then parenTexts objectText else objectText
  expectSymbol "="
  return target ++ " = " ++ (← exprText deeper)

/-- Reads assignments with commas between them. -/
def assignments (deeper : Grammar) : Reader String :=
  commaTexts (assignment deeper)

/-! ## Insertions -/

/-- Reads which rows that are in the table already stand in the way of new ones. -/
def conflictTarget : Reader String := do
  if ← acceptKeywords ["ON", "CONSTRAINT"] then return " ON CONSTRAINT " ++ (← objectText)
  else if (← peek? 0) = some .leftParen then parenTexts identText
  else return ""

/-- Reads what an insertion does with rows that are in the table already. -/
def conflictBehind (deeper : Grammar) : Reader String := do
  if ← acceptKeyword "CONFLICT" then
    let target ← conflictTarget
    expectKeyword "DO"
    if ← acceptKeyword "NOTHING" then return "ON CONFLICT" ++ target ++ " DO NOTHING"
    else
      expectKeywords ["UPDATE", "SET"]
      let changes ← assignments deeper
      let filter ← clauseBehind ["WHERE"] (exprText deeper)
      return "ON CONFLICT" ++ target ++ " DO UPDATE SET " ++ changes ++ filter
  else
    expectKeywords ["DUPLICATE", "KEY", "UPDATE"]
    return "ON DUPLICATE KEY UPDATE " ++ (← assignments deeper)

/-- Reads the clauses behind the rows of an insertion. -/
def insertClauses (deeper : Grammar) : Reader (List String) := do
  let label ← clause ["AS"] do
    let name ← objectText
    return name ++ columnsText (← optionalIdentifiers)
  let conflict ← behindKeyword "ON" (conflictBehind deeper)
  let returning ← optionalReturning deeper
  return label.toList ++ conflict.toList ++ returning.toList

/-- The formats of files that rows are stored in. -/
def fileFormats : List String :=
  ["TEXTFILE", "SEQUENCEFILE", "ORC", "PARQUET", "AVRO", "RCFILE", "JSONFILE"]

/-- Reads an insertion into the files of a directory behind that word. -/
def directoryBehind (deeper : Grammar) (opening : String) : Reader Statement := do
  let path ← literalString
  let format ← clauseBehind ["STORED", "AS"] (expectOneOf fileFormats)
  let query ← deeper.query
  return .other (opening ++ " DIRECTORY '" ++ path ++ "'" ++ format ++ " " ++ query.text)

/-- Reads an insertion into a table behind the words that open it. -/
def tableInsertion (deeper : Grammar) (words : String) : Reader Statement := do
  let opening := words ++ (← closingWords ["TABLE"])
  let table ← objectName
  if ← acceptKeywords ["DEFAULT", "VALUES"] then
    return .insert { opening, table, clauses := ← insertClauses deeper }
  else
    let columns ← optionalIdentifiers
    let partition ← behindKeyword "PARTITION" (parenTexts (exprText deeper))
    let source ← deeper.query
    return .insert { opening, table, columns, partition, source := some source,
                     clauses := ← insertClauses deeper }

/-- Reads an insertion behind its first word, INSERT or REPLACE. -/
def insertBehind (deeper : Grammar) (word : String) : Reader Statement := do
  let priority := clauseText "" (← acceptOneOf ["LOW_PRIORITY", "DELAYED", "HIGH_PRIORITY"])
  let ignore ← closingWords ["IGNORE"]
  let overwrite ← closingWords ["OVERWRITE"]
  let into ← closingWords ["INTO"]
  let near ← closingWords ["LOCAL"]
  if ← acceptKeyword "DIRECTORY" then directoryBehind deeper ("INSERT" ++ overwrite ++ near)
  else tableInsertion deeper (word ++ priority ++ ignore ++ overwrite ++ into)

/-! ## Changes and removals -/

/-- Reads UPDATE behind its first word. -/
def updateBehind (deeper : Grammar) : Reader String := do
  let table ← tableWithJoins deeper
  expectKeyword "SET"
  let changes ← assignments deeper
  let source ← clauseBehind ["FROM"] do return (← tableWithJoins deeper).text
  let filter ← clauseBehind ["WHERE"] (exprText deeper)
  let returning ← optionalReturning deeper
  return "UPDATE " ++ table.text ++ " SET " ++ changes ++ source ++ filter ++ clauseText "" returning

/-- Reads the number of rows behind `LIMIT`; `ALL` sets no limit. -/
def limitBehind (deeper : Grammar) : Reader (Option Expr) := do
  if ← acceptKeyword "ALL" then return none else return some (← wholeExpr deeper)

/-- Reads DELETE behind its first word. -/
def deleteBehind (deeper : Grammar) : Reader String := do
  let from? ← openingWords ["FROM"]
  let tables ← tableTexts deeper
  let source ← clauseBehind ["USING"] (tableTexts deeper)
  let filter ← clauseBehind ["WHERE"] (exprText deeper)
  let returning ← optionalReturning deeper
  let order ← clauseBehind ["ORDER", "BY"] (orderItems deeper)
  let limit ← if ← acceptKeyword "LIMIT" then limitBehind deeper else pure none
  return "DELETE " ++ from? ++ tables ++ source ++ filter ++ clauseText "" returning ++ order ++
    clauseText "LIMIT " (limit.map Expr.text)

end VideoPlan.Sql.Reader
