import VideoPlan.Sql.Reader.JsonTable
import VideoPlan.Sql.Reader.Pivot
import VideoPlan.Sql.Reader.RowPattern

/-!
# Reading tables

What a query reads from: a table by its name, or rows that come from somewhere else, and the joins behind
each of them.
-/

namespace VideoPlan.Sql.Reader

/-! ## Names for what is read -/

/-- The source of rows with the other name that is read for it. -/
def labeled (source : String) : Reader TableFactor := do
  return .other source (← optionalTableAlias) ""

/-- Reads settings with commas between them. -/
def settings : Reader String :=
  commaTexts do
    let key ← identText
    expectSymbol "="
    return key ++ " = " ++ (← constantText)

/-! ## Rows that are not in a table -/

/-- Reads rows of values; the flag tells whether a row stands behind the word `ROW`. -/
def valueRows (deeper : Grammar) : Reader (Bool × List (List Expr)) := do
  let rows ← commaSeparated do
    let explicit ← acceptKeyword "ROW"
    return (explicit, ← inParens (exprs deeper))
  return (rows.any (·.1), rows.map (·.2))

/-- Reads a query in parentheses behind the opening one, with another name for it. -/
def derivedBehind (deeper : Grammar) (opening : String) : Reader TableFactor := do
  labeled (opening ++ "(" ++ (← queryBehind deeper) ++ ")")

/-- Reads a query in parentheses or a call behind `LATERAL`. -/
def lateralBehind (deeper : Grammar) : Reader TableFactor := do
  if ← accept .leftParen then derivedBehind deeper "LATERAL "
  else
    let name ← objectText
    expect .leftParen
    labeled ("LATERAL " ++ name ++ (← plainArguments deeper))

/-- Reads arrays in parentheses behind `UNNEST`, with names for the elements and for their places. -/
def unnestBehind (deeper : Grammar) : Reader TableFactor := do
  let arrays ← parenTexts (exprText deeper)
  let ordinality ← closingWords ["WITH", "ORDINALITY"]
  let label ← optionalTableAlias
  let offset ← do
    if ← acceptKeyword "WITH" then acceptKeyword "OFFSET" else pure false
  let offsetLabel ← if offset then optionalAlias notColumnAliases else pure none
  let rest := if offset then " WITH OFFSET" ++ labelText (offsetLabel.map Ident.text) else ""
  return .other ("UNNEST" ++ arrays ++ ordinality) label rest

/-- Reads a table or a join in parentheses behind the opening one, with another name for it. The
parentheses around a table that stands alone are dropped. -/
def tablesBehind (deeper : Grammar) : Reader TableFactor := do
  let tables ← deeper.tables
  expect .rightParen
  let label ← optionalTableAlias
  match tables with
  | ⟨.join .., _⟩ | ⟨_, _ :: _⟩ => return .join tables.text label
  | ⟨factor, []⟩ =>
    match label with
    | none => return factor
    | some label => if factor.label?.isSome then refuse else return factor.named label

/-! ## Tables by their names -/

/-- Reads arguments and settings behind the opening parenthesis, with the closing one. -/
def tableArguments (deeper : Grammar) : Reader String := do
  let argument : Reader String := do
    match ← clause ["SETTINGS"] settings with
    | some text => return text
    | none => return (← callArgument deeper).text
  let args ← commaSeparatedUpTo .rightParen argument
  expect .rightParen
  return "(" ++ commaList args ++ ")"

/-- Reads hints in parentheses behind `WITH`, if they come next. -/
def optionalHints (deeper : Grammar) : Reader String := do
  if (← peekKeyword 0 "WITH") && (← peek? 1) = some .leftParen then
    clauseBehind ["WITH"] (parenTexts (exprText deeper))
  else return ""

/-- Reads a table by its name, with clauses behind it that make other rows of its rows. -/
def namedTable (deeper : Grammar) : Reader TableFactor := do
  let name ← objectName
  let parts ← do
    if ← acceptKeyword "PARTITION" then pure ("PARTITION " ++ (← parenTexts identText)) else pure ""
  let args ← if ← accept .leftParen then tableArguments deeper else pure ""
  let ordinality ← closingWords ["WITH", "ORDINALITY"]
  let label ← optionalTableAlias
  let table := TableFactor.table name (parts ++ args ++ ordinality) label (← optionalHints deeper)
  let table ← pivoted deeper table
  match ← optionalMatches deeper with
  | some turn => return table.turned turn
  | none => return table

/-- Reads a table, or rows from somewhere else. -/
def tableFactor (deeper : Grammar) : Reader TableFactor := do
  if ← acceptKeyword "LATERAL" then lateralBehind deeper
  else if ← acceptKeyword "TABLE" then labeled ("TABLE" ++ "(" ++ (← inParens (exprText deeper)) ++ ")")
  else if ← accept .leftParen then
    match ← attempt (derivedBehind deeper "") with
    | some factor => pivoted deeper factor
    | none => tablesBehind deeper
  else if (← peekKeyword 0 "VALUES") && (← peek? 1) = some .leftParen then
    expectKeyword "VALUES"
    let (explicitRow, rows) ← valueRows deeper
    labeled ("(" ++ valuesText explicitRow rows ++ ")")
  else if ← acceptKeyword "UNNEST" then unnestBehind deeper
  else if (← peekKeyword 0 "JSON_TABLE") && (← peek? 1) = some .leftParen then
    expectKeyword "JSON_TABLE"
    labeled ("JSON_TABLE(" ++ (← inParens (jsonRows deeper)) ++ ")")
  else namedTable deeper

/-! ## Joins -/

/-- Reads the words that open a join, if they come next. -/
def joinOpening : Reader (Option String) := do
  if ← acceptKeyword "JOIN" then return some "JOIN"
  else if ← acceptKeyword "INNER" then
    expectKeyword "JOIN"
    return some "JOIN"
  else if let some side ← acceptOneOf ["LEFT", "RIGHT"] then
    match ← expectOneOf ["JOIN", "OUTER", "SEMI", "ANTI"] with
    | "JOIN" => return some (side ++ " JOIN")
    | word =>
      expectKeyword "JOIN"
      return some (if word = "OUTER" then side ++ " JOIN" else side ++ " " ++ word ++ " JOIN")
  else if ← acceptKeyword "FULL" then
    let _ ← acceptKeyword "OUTER"
    expectKeyword "JOIN"
    return some "FULL JOIN"
  else return none

/-- Reads the condition of a join. -/
def joinCondition (deeper : Grammar) : Reader String := do
  if ← acceptKeyword "ON" then return " ON " ++ (← exprText deeper)
  else if ← acceptKeyword "USING" then return " USING" ++ (← parenTexts identText)
  else return ""

/-- Reads a join that pairs the nearest rows behind its first words. -/
def nearestBehind (deeper : Grammar) : Reader String := do
  let factor ← tableFactor deeper
  expectKeyword "MATCH_CONDITION"
  let condition ← inParens (exprText deeper)
  return "ASOF JOIN " ++ factor.text ++ " MATCH_CONDITION (" ++ condition ++ ")" ++ (← joinCondition deeper)

/-- Reads a join, if one comes next. -/
def optionalJoin (deeper : Grammar) : Reader (Option String) := do
  let everywhere ← openingWords ["GLOBAL"]
  if ← acceptKeyword "CROSS" then
    let kind ← expectOneOf ["JOIN", "APPLY"]
    return some (everywhere ++ "CROSS " ++ kind ++ " " ++ (← tableFactor deeper).text)
  else if ← acceptKeyword "OUTER" then
    expectKeyword "APPLY"
    return some (everywhere ++ "OUTER APPLY " ++ (← tableFactor deeper).text)
  else if ← acceptKeyword "ASOF" then
    expectKeyword "JOIN"
    return some (everywhere ++ (← nearestBehind deeper))
  else
    let natural ← openingWords ["NATURAL"]
    match ← joinOpening with
    | none => if natural.isEmpty then return none else refuse
    | some opening =>
      let factor ← tableFactor deeper
      let condition ← if natural.isEmpty then joinCondition deeper else pure ""
      return some (everywhere ++ natural ++ opening ++ " " ++ factor.text ++ condition)

/-- Reads a table with its joins. -/
def tableWithJoins (deeper : Grammar) : Reader TableWithJoins := do
  let factor ← tableFactor deeper
  return { factor, joins := ← whileSome (optionalJoin deeper) }

/-- Reads tables and their joins with commas between them, as one text. -/
def tableTexts (deeper : Grammar) : Reader String :=
  commaTexts do return (← tableWithJoins deeper).text

end VideoPlan.Sql.Reader
