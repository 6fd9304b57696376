import VideoPlan.Sql.Reader.Alter
import VideoPlan.Sql.Reader.Grant
import VideoPlan.Sql.Reader.Merge
import VideoPlan.Sql.Reader.Query
import VideoPlan.Sql.Reader.Setting

/-!
# Reading statements

Queries and insertions are read in full. Of the other statements only the text matters; each of them has
a reader that answers its normal form. A statement that no reader knows is refused.
-/

namespace VideoPlan.Sql

namespace Reader

/-! ## Small statements -/

/-- Reads CALL behind its first word. -/
def callStatement (deeper : Grammar) : Reader String := do
  let name ← objectName
  if ← accept .leftParen then return "CALL " ++ (← callBehind deeper name).text
  else return "CALL " ++ dotted name

/-- Reads PRAGMA behind its first word. -/
def pragmaBehind : Reader String := do
  let value : Reader String := do
    match ← constant with
    | .boolean _ | .null => refuse
    | value => return value.text
  let name ← objectText
  if (← peek? 0) = some .leftParen then return "PRAGMA " ++ name ++ "(" ++ (← inParens value) ++ ")"
  else if ← acceptSymbol "=" then return "PRAGMA " ++ name ++ " = " ++ (← value)
  else return "PRAGMA " ++ name

/-- Reads DISCARD behind its first word. -/
def discardBehind : Reader String := do
  match ← expectOneOf ["ALL", "PLANS", "SEQUENCES", "TEMP", "TEMPORARY"] with
  | "TEMPORARY" => return "DISCARD TEMP"
  | word => return "DISCARD " ++ word

/-- Reads a remark on a table or a column behind the first word. -/
def commentBehind : Reader String := do
  let existing ← openingWords ["IF", "EXISTS"]
  expectKeyword "ON"
  let kind ← expectOneOf ["COLUMN", "TABLE", "EXTENSION", "SCHEMA", "DATABASE", "USER", "ROLE"]
  let name ← objectText
  expectKeyword "IS"
  let opening := "COMMENT " ++ existing ++ "ON " ++ kind ++ " " ++ name ++ " IS "
  if ← acceptKeyword "NULL" then return opening ++ "NULL"
  else return opening ++ "'" ++ (← literalString) ++ "'"

/-- Reads EXECUTE behind its first word. -/
def executeBehind (deeper : Grammar) : Reader String := do
  let name ← identText
  if (← peek? 0) = some .leftParen then
    return "EXECUTE " ++ name ++ "(" ++ commaList (← tuple deeper) ++ ")"
  else return "EXECUTE " ++ name

/-- Reads one of the smaller statements, if one comes next. -/
def optionalSmall (deeper : Grammar) : Reader (Option String) := do
  if let some word ← acceptOneOf ["LOAD", "INSTALL"] then return some (word ++ " " ++ (← identText))
  else if ← acceptKeyword "USE" then return some ("USE " ++ (← objectText))
  else if ← acceptKeyword "CALL" then return some (← callStatement deeper)
  else if ← acceptKeyword "PRAGMA" then return some (← pragmaBehind)
  else if ← acceptKeyword "DISCARD" then return some (← discardBehind)
  else if ← acceptKeyword "COMMENT" then return some (← commentBehind)
  else if ← acceptKeyword "EXECUTE" then return some (← executeBehind deeper)
  else if ← acceptKeyword "DEALLOCATE" then
    let prepare ← openingWords ["PREPARE"]
    return some ("DEALLOCATE " ++ prepare ++ (← identText))
  else if ← acceptKeyword "CLOSE" then return some ("CLOSE " ++ (← identText))
  else if ← acceptKeyword "KILL" then
    let kind ← acceptOneOf ["CONNECTION", "QUERY", "MUTATION"]
    return some ("KILL" ++ clauseText "" kind ++ " " ++ (← wholeNumber))
  else if ← acceptKeyword "ASSERT" then
    let condition ← exprText deeper
    return some ("ASSERT " ++ condition ++ (← clauseBehind ["AS"] (exprText deeper)))
  else return none

/-! ## Statements -/

/-- Reads a statement that makes, changes or removes something, if one comes next. -/
def optionalDefinition (deeper : Grammar) : Reader (Option String) := do
  if ← acceptKeyword "CREATE" then return some (← createBehind deeper)
  else if ← acceptKeyword "DROP" then return some (← dropBehind deeper)
  else if ← acceptKeyword "ALTER" then return some (← alterBehind deeper)
  else if ← acceptKeyword "TRUNCATE" then return some (← truncateBehind deeper)
  else if ← acceptKeyword "DELETE" then return some (← deleteBehind deeper)
  else if ← acceptKeyword "UPDATE" then return some (← updateBehind deeper)
  else if ← acceptKeyword "MERGE" then return some (← mergeBehind deeper)
  else if ← acceptKeyword "GRANT" then return some (← grantBehind)
  else if ← acceptKeyword "REVOKE" then return some (← revokeBehind)
  else if ← acceptKeyword "SET" then return some (← setBehind deeper)
  else if ← acceptKeyword "SHOW" then return some (← showBehind deeper)
  else return none

/-- Reads a statement other than a query or an insertion, as its text. -/
def otherStatement (deeper : Grammar) : Reader String := do
  if let some text ← optionalDefinition deeper then return text
  else if let some text ← optionalTransaction then return text
  else if let some text ← optionalSmall deeper then return text
  else refuse

/-- Reads a statement that is about no other statement. -/
def plainStatement (deeper : Grammar) : Reader Statement := do
  let startsQuery := (← peekQuery) || (← peekKeyword 0 "VALUES") || (← peek? 0) = some .leftParen
  if startsQuery then return .query (← deeper.query)
  else if let some word ← acceptOneOf ["INSERT", "REPLACE"] then insertBehind deeper word
  else return .other (← otherStatement deeper)

/-- The words that ask what a statement would do or what a table is. -/
def explainWords : List String :=
  ["EXPLAIN", "DESCRIBE", "DESC"]

/-- Whether a statement starts here that is about another statement or a table. -/
def peekExplain : Reader Bool := do
  match ← peek? 0, ← peek? 1 with
  | some token, some (.word _ _) => return explainWords.any token.isKeyword
  | _, _ => return false

/-- Reads an option of EXPLAIN with its value, which may be missing. -/
def explainOption (deeper : Grammar) : Reader String := do
  let name ← identText
  let next ← peek? 0
  if next = some .comma || next = some .rightParen then return name
  else return name ++ " " ++ (← exprText deeper)

/-- Reads how much EXPLAIN is to show, with a blank behind it. -/
def explainOptions (deeper : Grammar) (word : String) : Reader String := do
  if word = "EXPLAIN" && (← peek? 0) = some .leftParen then
    return (← parenTexts (explainOption deeper)) ++ " "
  else if ← acceptKeywords ["QUERY", "PLAN"] then return "QUERY PLAN "
  else
    let analyze ← openingWords ["ANALYZE"]
    let verbose ← openingWords ["VERBOSE"]
    if ← acceptKeyword "FORMAT" then
      return analyze ++ verbose ++ "FORMAT " ++ (← expectOneOf ["TEXT", "GRAPHVIZ", "JSON"]) ++ " "
    else return analyze ++ verbose

/-- Reads what EXPLAIN is asked to show behind its options: a statement one level deeper, or a table. -/
def explainBehind (deeper : Grammar) (word options : String) : Reader String := do
  if ← peekExplain then refuse
  else match ← attempt (plainStatement deeper) with
  | some statement => return word ++ " " ++ options ++ statement.text
  | none =>
    let shown := (← acceptOneOf ["EXTENDED", "FORMATTED"]).map (· ++ " ")
    return word ++ " " ++ shown.getD "" ++ (← objectText)

/-- Reads a prepared statement, one level deeper, behind the first word. -/
def prepareBehind (deeper : Grammar) : Reader String := do
  let name ← identText
  let types ← if (← peek? 0) = some .leftParen then pure (" " ++ (← parenTexts typeName)) else pure ""
  expectKeyword "AS"
  return "PREPARE " ++ name ++ types ++ " AS " ++ (← plainStatement deeper).text

/-- Reads a statement with `depth` levels for its parts. -/
def statement (depth : Nat) : Reader Statement := do
  if let some word ← acceptOneOf explainWords then
    let options ← explainOptions (grammar depth) word
    return .other (← explainBehind (grammar (depth - 1)) word options)
  else if ← acceptKeyword "PREPARE" then return .other (← prepareBehind (grammar (depth - 1)))
  else plainStatement (grammar depth)

/-- How deeply parts of a statement may be nested, the statement itself counted. -/
def nestingLimit : Nat := 50

/-- Reads a statement, refusing one that is nested too deeply. -/
def wholeStatement : Reader Statement :=
  statement (nestingLimit - 1)

end Reader

end VideoPlan.Sql
