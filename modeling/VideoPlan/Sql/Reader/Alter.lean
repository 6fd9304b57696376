import VideoPlan.Sql.Reader.Remove

/-!
# Reading ALTER

ALTER changes how something is declared. A table takes several changes at a time.
-/

namespace VideoPlan.Sql.Reader

/-- Reads where a column goes, if that comes next. -/
def optionalPosition : Reader String := do
  if ← acceptKeyword "FIRST" then return " FIRST" else clauseBehind ["AFTER"] identText

/-- Reads a change behind `ADD`. -/
def addBehind (deeper : Grammar) : Reader String := do
  match ← tableConstraint deeper with
  | some constraint => return "ADD " ++ constraint
  | none =>
    let early ← closingWords ["IF", "NOT", "EXISTS"]
    let word ← closingWords ["COLUMN"]
    let late ← closingWords ["IF", "NOT", "EXISTS"]
    let column ← column deeper
    return "ADD" ++ word ++ (if late.isEmpty then early else late) ++ " " ++ column ++ (← optionalPosition)

/-- Reads a change behind `RENAME`. -/
def renameBehind : Reader String := do
  if ← acceptKeyword "TO" then return "RENAME TO " ++ (← objectText)
  else
    let _ ← acceptKeyword "COLUMN"
    let name ← identText
    expectKeyword "TO"
    return "RENAME COLUMN " ++ name ++ " TO " ++ (← identText)

/-- Reads a change behind `DROP`. -/
def dropChangeBehind (deeper : Grammar) : Reader String := do
  if let some words ← acceptPhrase [["IF", "EXISTS", "PARTITION"], ["PARTITION"]] then
    return "DROP " ++ words ++ " " ++ (← parenTexts (exprText deeper))
  else if ← acceptKeywords ["PRIMARY", "KEY"] then return "DROP PRIMARY KEY"
  else
    let kind := (← acceptOneOf ["CONSTRAINT", "COLUMN"]).getD "COLUMN"
    let existing ← optionalExisting
    let name ← identText
    return "DROP " ++ kind ++ " " ++ existing ++ name ++ (← closingWords ["CASCADE"])

/-- Reads the type of a column with its options and its place. -/
def retypedBehind (deeper : Grammar) : Reader String := do
  let type ← typeName
  let options ← whileSome (columnOption deeper)
  return type ++ clauseTexts options ++ (← optionalPosition)

/-- Reads a change behind `ALTER`. -/
def alterColumnBehind (deeper : Grammar) : Reader String := do
  let _ ← acceptKeyword "COLUMN"
  let name ← identText
  let opening := "ALTER COLUMN " ++ name ++ " "
  if let some words ← acceptPhrase [["SET", "NOT", "NULL"], ["DROP", "NOT", "NULL"], ["DROP", "DEFAULT"]] then
    return opening ++ words
  else if ← acceptKeywords ["SET", "DEFAULT"] then return opening ++ "SET DEFAULT " ++ (← exprText deeper)
  else
    expectKeywords ["SET", "DATA", "TYPE"]
    return opening ++ "SET DATA TYPE " ++ (← typeName)

/-- Whether the rules and triggers of a table run. -/
def switchPhrases : List (List String) :=
  [["ENABLE", "ALWAYS", "RULE"], ["ENABLE", "ALWAYS", "TRIGGER"], ["ENABLE", "REPLICA", "RULE"],
    ["ENABLE", "REPLICA", "TRIGGER"], ["ENABLE", "RULE"], ["ENABLE", "TRIGGER"], ["DISABLE", "RULE"],
    ["DISABLE", "TRIGGER"]]

/-- Whether the rows of a table are guarded. -/
def guardPhrases : List (List String) :=
  [["ENABLE", "ROW", "LEVEL", "SECURITY"], ["DISABLE", "ROW", "LEVEL", "SECURITY"]]

/-- Reads a change of a table. -/
def tableChange (deeper : Grammar) : Reader String := do
  if ← acceptKeyword "ADD" then addBehind deeper
  else if ← acceptKeyword "RENAME" then renameBehind
  else if let some words ← acceptPhrase guardPhrases then return words
  else if let some words ← acceptPhrase switchPhrases then return words ++ " " ++ (← identText)
  else if ← acceptKeyword "DROP" then dropChangeBehind deeper
  else if let some word ← acceptOneOf ["CHANGE", "MODIFY"] then
    let _ ← acceptKeyword "COLUMN"
    let name ← identText
    let newName ← if word = "CHANGE" then pure (" " ++ (← identText)) else pure ""
    return word ++ " COLUMN " ++ name ++ newName ++ " " ++ (← retypedBehind deeper)
  else if ← acceptKeyword "ALTER" then alterColumnBehind deeper
  else if ← acceptKeywords ["SWAP", "WITH"] then return "SWAP WITH " ++ (← objectText)
  else if ← acceptKeywords ["OWNER", "TO"] then
    match ← acceptOneOf ["CURRENT_USER", "CURRENT_ROLE", "SESSION_USER"] with
    | some word => return "OWNER TO " ++ word
    | none => return "OWNER TO " ++ (← identText)
  else
    expectKeywords ["SET", "TBLPROPERTIES"]
    return "SET TBLPROPERTIES(" ++ commaList (← optionsInParens deeper) ++ ")"

/-- Reads ALTER TABLE behind these words. -/
def alterTableBehind (deeper : Grammar) : Reader String := do
  let existing ← optionalExisting
  let only ← openingWords ["ONLY"]
  let name ← objectText
  let cluster ← optionalCluster
  let changes ← commaTexts (tableChange deeper)
  let location ← acceptPhrase [["LOCATION"], ["SET", "LOCATION"]]
  let place ← match location with
    | some words => do pure (" " ++ words ++ " " ++ (← identText))
    | none => pure ""
  return "ALTER TABLE " ++ existing ++ only ++ name ++ cluster ++ " " ++ changes ++ place

/-- Reads ALTER VIEW behind these words. -/
def alterViewBehind (deeper : Grammar) : Reader String := do
  let name ← objectText
  let columns ← optionalIdentifiers
  let options ← optionsClause deeper "WITH" " WITH (" ")"
  expectKeyword "AS"
  return "ALTER VIEW " ++ name ++ columnsText columns ++ options ++ " AS " ++ (← deeper.query).text

/-- Reads ALTER behind its first word. -/
def alterBehind (deeper : Grammar) : Reader String := do
  if ← acceptKeyword "TABLE" then alterTableBehind deeper
  else if ← acceptKeyword "VIEW" then alterViewBehind deeper
  else
    expectKeyword "INDEX"
    let name ← objectText
    expectKeywords ["RENAME", "TO"]
    return "ALTER INDEX " ++ name ++ " RENAME TO " ++ (← objectText)

end VideoPlan.Sql.Reader
