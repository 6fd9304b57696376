import VideoPlan.Sql.Reader.Create

/-!
# Reading statements that remove

DROP removes things by their names, TRUNCATE the rows of tables.
-/

namespace VideoPlan.Sql.Reader

/-- Reads `IF EXISTS`, if it comes next. -/
def optionalExisting : Reader String :=
  openingWords ["IF", "EXISTS"]

/-- Reads what happens to that which depends on a removed thing. -/
def optionalCascade : Reader String := do
  return clauseText "" (← acceptOneOf ["CASCADE", "RESTRICT"])

/-! ## DROP -/

/-- Things that DROP removes several of at a time. -/
def droppedKinds : List String :=
  ["TABLE", "VIEW", "INDEX", "ROLE", "SCHEMA", "DATABASE", "SEQUENCE", "STAGE", "TYPE"]

/-- Reads DROP behind the kind of the things. -/
def dropKindBehind (opening kind : String) : Reader String := do
  let existing ← optionalExisting
  let names ← commaTexts objectText
  let cascade ← closingWords ["CASCADE"]
  let restrict ← closingWords ["RESTRICT"]
  let purge ← closingWords ["PURGE"]
  if !cascade.isEmpty && !restrict.isEmpty then refuse
  else if kind = "ROLE" && !(cascade ++ restrict ++ purge).isEmpty then refuse
  else return opening ++ kind ++ " " ++ existing ++ names ++ cascade ++ restrict ++ purge

/-- Reads the type of a parameter, perhaps with its name and its default. -/
def routineParameter (deeper : Grammar) : Reader String := do
  let mode := (← acceptOneOf ["IN", "OUT", "INOUT"]).map (· ++ " ")
  let first ← balancedType
  let type ← do
    if first.standard then pure first.text
    else
      let name := first.text.takeWhile fun c => c != '.' && c != '('
      pure (name.toString ++ " " ++ (← typeName))
  let isDefaulted ← do
    if ← acceptKeyword "DEFAULT" then pure true else acceptSymbol "="
  let value ← if isDefaulted then pure (" = " ++ (← exprText deeper)) else pure ""
  return mode.getD "" ++ type ++ value

/-- Reads a routine by its name and its parameters, which may be left out. -/
def routine (deeper : Grammar) : Reader String := do
  let name ← objectText
  if ← accept .leftParen then
    let parameters ← commaSeparatedUpTo .rightParen (routineParameter deeper)
    expect .rightParen
    return if parameters.isEmpty then name else name ++ "(" ++ commaList parameters ++ ")"
  else return name

/-- Reads DROP behind the word for a kind of routine. -/
def dropRoutineBehind (deeper : Grammar) (kind : String) : Reader String := do
  let existing ← optionalExisting
  let routines ← commaTexts (routine deeper)
  return "DROP " ++ kind ++ " " ++ existing ++ routines ++ (← optionalCascade)

/-- Reads DROP behind the word for something that belongs to a table. -/
def dropAttachedBehind (kind : String) (name : Reader String) : Reader String := do
  let existing ← optionalExisting
  let name ← name
  expectKeyword "ON"
  let table ← objectText
  return "DROP " ++ kind ++ " " ++ existing ++ name ++ " ON " ++ table ++ (← optionalCascade)

/-- Reads DROP behind its first word. -/
def dropBehind (deeper : Grammar) : Reader String := do
  let temporary ← openingWords ["TEMPORARY"]
  if let some kind ← acceptOneOf droppedKinds then dropKindBehind ("DROP " ++ temporary) kind
  else if let some kind ← acceptOneOf ["FUNCTION", "PROCEDURE"] then dropRoutineBehind deeper kind
  else if ← acceptKeyword "POLICY" then dropAttachedBehind "POLICY" identText
  else
    expectKeyword "TRIGGER"
    dropAttachedBehind "TRIGGER" objectText

/-! ## TRUNCATE -/

/-- Reads TRUNCATE behind its first word. -/
def truncateBehind (deeper : Grammar) : Reader String := do
  let table ← openingWords ["TABLE"]
  let only ← openingWords ["ONLY"]
  let names ← commaTexts objectText
  let parts ← clauseBehind ["PARTITION"] (parenTexts (exprText deeper))
  let identity ← acceptPhrase [["RESTART", "IDENTITY"], ["CONTINUE", "IDENTITY"]]
  let cascade ← optionalCascade
  let cluster ← optionalCluster
  return "TRUNCATE " ++ table ++ only ++ names ++ clauseText "" identity ++ cascade ++ parts ++ cluster

end VideoPlan.Sql.Reader
