import VideoPlan.Sql.Reader.Column

/-!
# Reading statements that create

What is created is read as its text. The clauses behind a new table are written in another order than they
are read in.
-/

namespace VideoPlan.Sql.Reader

/-- Reads `IF NOT EXISTS`, if it comes next. -/
def optionalMissing : Reader String :=
  openingWords ["IF", "NOT", "EXISTS"]

/-! ## Tables -/

/-- Reads the machines that a statement is meant for, if they come next. -/
def optionalCluster : Reader String :=
  clauseBehind ["ON", "CLUSTER"] identText

/-- Reads the name of another table behind a word, if the word comes next. A token that is no name is
skipped. -/
def optionalModel (words : List String) (shown : String) : Reader String := do
  match ← acceptOneOf words with
  | none => return ""
  | some _ =>
    match ← attempt objectText with
    | some name => return " " ++ shown ++ " " ++ name
    | none =>
      let _ ← next?
      return ""

/-- Reads into how many parts the rows are divided by some columns, if that comes next. -/
def optionalBuckets (deeper : Grammar) : Reader String :=
  clauseBehind ["CLUSTERED", "BY"] do
    let columns ← parenTexts identText
    let sorted ← clauseBehind ["SORTED", "BY"] (parenTexts (orderItem deeper))
    expectKeyword "INTO"
    let count ← constantText
    expectKeyword "BUCKETS"
    return columns ++ sorted ++ " INTO " ++ count ++ " BUCKETS"

/-- How the files of a table are kept. -/
structure Storage where
  format : String := ""
  location : String := ""

/-- Reads one more fact of how the files of a table are kept, if one comes next. -/
def moreStorage (storage : Storage) : Reader (Option Storage) := do
  if ← acceptKeyword "STORED" then
    expectKeyword "AS"
    return some { storage with format := " STORED AS " ++ (← expectOneOf fileFormats) }
  else if ← acceptKeyword "LOCATION" then
    return some { storage with location := " LOCATION '" ++ (← literalString) ++ "'" }
  else return none

/-- Reads how the files of a table are kept, in `fuel` facts at most. -/
def storageFrom : Nat → Storage → Reader Storage
  | 0, storage => return storage
  | fuel + 1, storage => do
    match ← moreStorage storage with
    | some storage => storageFrom fuel storage
    | none => return storage

/-- Reads how the files of a table are kept. -/
def optionalStorage : Reader String := do
  let storage ← storageFrom (← get).length {}
  return storage.format ++ storage.location

/-- Reads options in parentheses behind a word, if the word comes next. -/
def optionsClause (deeper : Grammar) (word opening closing : String) : Reader String := do
  match ← keyedOptions deeper word with
  | [] => return ""
  | options => return opening ++ commaList options ++ closing

/-- Reads a word behind words and an equals sign, if they come next. -/
def wordSetting (words : List String) : Reader String := do
  if ← acceptKeywords words then
    expectSymbol "="
    match ← next? with
    | some (.word value _) => return " " ++ " ".intercalate words ++ "=" ++ value
    | _ => refuse
  else return ""

/-- Reads the engine of a table, if it comes next. -/
def optionalEngine : Reader String := do
  let engine ← wordSetting ["ENGINE"]
  if !engine.isEmpty && (← peek? 0) = some .leftParen then return engine ++ (← parenTexts identText)
  else return engine

/-- Reads the first number that a table counts from, if it comes next. It takes 32 bits at most. -/
def optionalCounter : Reader String :=
  clauseBehind ["AUTO_INCREMENT"] do
    let _ ← acceptSymbol "="
    smallNumber

/-- Reads the expressions that rows are ordered by in a table, if they come next. -/
def optionalTableOrder (deeper : Grammar) : Reader String :=
  clauseBehind ["ORDER", "BY"] do
    if (← peek? 0) = some .leftParen then
      return "(" ++ commaList (← inParens (commaSeparatedUpTo .rightParen (exprText deeper))) ++ ")"
    else exprText deeper

/-- Reads a remark, if it comes next. -/
def optionalRemark : Reader String := do
  if ← acceptKeyword "COMMENT" then
    let sign ← do if ← acceptSymbol "=" then pure " =" else pure ""
    return " COMMENT" ++ sign ++ " '" ++ (← plainString) ++ "'"
  else return ""

/-- Reads what happens to the rows of a table when a transaction ends, if that comes next. -/
def optionalCommit : Reader String :=
  clauseBehind ["ON", "COMMIT"] do
    match ← acceptPhrase [["DELETE", "ROWS"], ["PRESERVE", "ROWS"], ["DROP"]] with
    | some words => return words
    | none => refuse

/-- Reads the options of a table that every engine knows, in the order in which they are written too. -/
def plainTableOptions (deeper : Grammar) : Reader String := do
  let key ← clauseBehind ["PRIMARY", "KEY"] (exprText deeper)
  let order ← optionalTableOrder deeper
  let parts ← clauseBehind ["PARTITION", "BY"] (exprText deeper)
  let cluster ← clauseBehind ["CLUSTER", "BY"] (commaTexts identText)
  let options ← do
    if ← peekKeyword 0 "OPTIONS" then
      pure (" OPTIONS(" ++ commaList (← keyedOptions deeper "OPTIONS") ++ ")")
    else pure ""
  let letters ← wordSetting ["DEFAULT", "CHARSET"]
  let collation ← wordSetting ["COLLATE"]
  let commit ← optionalCommit
  let strict ← closingWords ["STRICT"]
  return key ++ order ++ parts ++ cluster ++ options ++ letters ++ collation ++ commit ++ strict

/-- Reads the clauses behind the columns of a table, without its query; `model` is the clause that names
the table it is like. -/
def tableClauses (deeper : Grammar) (model : String) : Reader String := do
  let rowid ← closingWords ["WITHOUT", "ROWID"]
  let parts ← clauseBehind ["PARTITIONED", "BY"] (parenTexts (column deeper))
  let buckets ← optionalBuckets deeper
  let storage ← optionalStorage
  let withOptions ← optionsClause deeper "WITH" " WITH (" ")"
  let properties ← optionsClause deeper "TBLPROPERTIES" " TBLPROPERTIES (" ")"
  let engine ← optionalEngine
  let counter ← optionalCounter
  let options ← plainTableOptions deeper
  let remark ← optionalRemark
  return rowid ++ model ++ parts ++ buckets ++ storage ++ properties ++ withOptions ++ engine ++ remark ++
    counter ++ options

/-- Reads CREATE TABLE behind these words, with the words between them. -/
def createTableBehind (deeper : Grammar) (opening : String) : Reader String := do
  let missing ← optionalMissing
  let name ← objectText
  let cluster ← optionalCluster
  let like ← optionalModel ["LIKE", "ILIKE"] "LIKE"
  let clone ← optionalModel ["CLONE"] "CLONE"
  let elements ← tableElements deeper
  let clauses ← tableClauses deeper (like ++ clone)
  let query ← clauseBehind ["AS"] do return (← deeper.query).text
  let body :=
    if !elements.isEmpty then " (" ++ commaList elements ++ ")"
    else if (query ++ like ++ clone).isEmpty then " ()"
    else ""
  return "CREATE " ++ opening ++ "TABLE " ++ missing ++ name ++ cluster ++ body ++ clauses ++ query

/-! ## Views -/

/-- Reads a column of a view with its options or its remark. -/
def viewColumn (deeper : Grammar) : Reader String := do
  let name ← identText
  if (← peekKeyword 0 "OPTIONS") || (← peekKeyword 0 "COMMENT") then
    return name ++ clauseText "" (← columnOption deeper)
  else return name

/-- Reads the columns of a view, which may be none. -/
def viewColumns (deeper : Grammar) : Reader String := do
  if ← accept .leftParen then
    let columns ← commaSeparatedUpTo .rightParen (viewColumn deeper)
    expect .rightParen
    return if columns.isEmpty then "" else " (" ++ commaList columns ++ ")"
  else return ""

/-- Reads the remark on a view, if it comes next. -/
def viewRemark : Reader String := do
  if ← acceptKeyword "COMMENT" then
    expectSymbol "="
    return " COMMENT = " ++ quoted '\'' (← plainString)
  else return ""

/-- Reads CREATE VIEW behind that word, with the words that opened it. -/
def createViewBehind (deeper : Grammar) (opening : String) : Reader String := do
  let missing ← optionalMissing
  let name ← objectText
  let columns ← viewColumns deeper
  let withOptions ← optionsClause deeper "WITH" " WITH (" ")"
  let cluster ← do
    if ← acceptKeyword "CLUSTER" then
      expectKeyword "BY"
      match ← optionalIdentifiers with
      | [] => pure ""
      | names => pure (" CLUSTER BY (" ++ identList names ++ ")")
    else pure ""
  let options ← optionsClause deeper "OPTIONS" " OPTIONS(" ")"
  let target ← clauseBehind ["TO"] objectText
  let remark ← viewRemark
  expectKeyword "AS"
  let query ← deeper.query
  let binding ← closingWords ["WITH", "NO", "SCHEMA", "BINDING"]
  return "CREATE " ++ opening ++ "VIEW " ++ missing ++ name ++ target ++ columns ++
    (if options.isEmpty then withOptions else "") ++ remark ++ cluster ++ options ++ " AS " ++
    query.text ++ binding

/-! ## Schemas and databases -/

/-- Reads CREATE SCHEMA behind that word. -/
def createSchemaBehind : Reader String := do
  let missing ← optionalMissing
  if ← acceptKeyword "AUTHORIZATION" then
    return "CREATE SCHEMA " ++ missing ++ "AUTHORIZATION " ++ (← identText)
  else
    let name ← objectText
    return "CREATE SCHEMA " ++ missing ++ name ++ (← clauseBehind ["AUTHORIZATION"] identText)

/-- Reads CREATE DATABASE behind that word. -/
def createDatabaseBehind : Reader String := do
  let missing ← optionalMissing
  let name ← objectText
  let places ← whileSome do
    match ← acceptOneOf ["LOCATION", "MANAGEDLOCATION"] with
    | some word => return some (word ++ " '" ++ (← literalString) ++ "'")
    | none => return none
  let last (word : String) : List String :=
    (places.filter (·.startsWith word)).getLast?.toList
  return "CREATE DATABASE " ++ missing ++ name ++ clauseTexts (last "LOCATION" ++ last "MANAGEDLOCATION")

/-! ## Indexes and sequences -/

/-- Reads the name of an index before the table that it is on. -/
def indexName (missing : String) : Reader String := do
  if missing.isEmpty && (← acceptKeyword "ON") then return ""
  else
    let name ← objectText
    expectKeyword "ON"
    return name ++ " "

/-- Reads CREATE INDEX behind these words. -/
def createIndexBehind (deeper : Grammar) (opening : String) : Reader String := do
  let concurrently ← openingWords ["CONCURRENTLY"]
  let missing ← optionalMissing
  let name ← indexName missing
  let table ← objectText
  let method ← clauseBehind ["USING"] identText
  let columns ← inParens (commaSeparated (orderItem deeper))
  let included ← clauseBehind ["INCLUDE"] do
    return "(" ++ ",".intercalate (← inParens (commaSeparated identText)) ++ ")"
  let nulls ← do
    if ← acceptKeyword "NULLS" then
      let negated ← openingWords ["NOT"]
      expectKeyword "DISTINCT"
      pure (" NULLS " ++ negated ++ "DISTINCT")
    else pure ""
  let options ← clauseBehind ["WITH"] (parenTexts (exprText deeper))
  let filter ← clauseBehind ["WHERE"] (exprText deeper)
  return "CREATE " ++ opening ++ "INDEX " ++ concurrently ++ missing ++ name ++ "ON " ++ table ++
    (if method.isEmpty then "" else method ++ " ") ++ "(" ++ ",".intercalate columns ++ ")" ++ included ++
    nulls ++ options ++ filter

/-- Reads CREATE SEQUENCE behind these words. -/
def createSequenceBehind (opening : String) : Reader String := do
  let missing ← optionalMissing
  let name ← objectText
  let type ← clauseBehind ["AS"] typeName
  let options ← sequenceOptions
  let owner ← clauseBehind ["OWNED", "BY"] do
    if ← acceptKeyword "NONE" then return "NONE" else objectText
  return "CREATE " ++ opening ++ "SEQUENCE " ++ missing ++ name ++ type ++ options ++ owner

/-! ## Other things -/

/-- Reads CREATE EXTENSION behind these words. -/
def createExtensionBehind : Reader String := do
  let missing ← optionalMissing
  let name ← identText
  if ← acceptKeyword "WITH" then
    let schema ← clauseBehind ["SCHEMA"] identText
    let version ← clauseBehind ["VERSION"] identText
    let options := schema ++ version ++ (← closingWords ["CASCADE"])
    return "CREATE EXTENSION " ++ missing ++ name ++ if options.isEmpty then "" else " WITH" ++ options
  else return "CREATE EXTENSION " ++ missing ++ name

/-- Reads CREATE VIRTUAL TABLE behind the first two words. -/
def createVirtualBehind : Reader String := do
  expectKeyword "TABLE"
  let missing ← optionalMissing
  let name ← objectText
  expectKeyword "USING"
  let provider ← identText
  let arguments ← optionalIdentifiers
  return "CREATE VIRTUAL TABLE " ++ missing ++ name ++ " USING " ++ provider ++ columnsText arguments

/-! ## CREATE -/

/-- The words that say how far a new table reaches. -/
def reach (isGlobal isLocal : Bool) : String :=
  if isGlobal then "GLOBAL " else if isLocal then "LOCAL " else ""

/-- Reads what is created behind words that nothing but tables and views takes notice of. -/
def createPlain (deeper : Grammar) (temporary : String) : Reader String := do
  if ← acceptKeyword "EXTENSION" then createExtensionBehind
  else if ← acceptKeyword "INDEX" then createIndexBehind deeper ""
  else if ← acceptKeywords ["UNIQUE", "INDEX"] then createIndexBehind deeper "UNIQUE "
  else if ← acceptKeyword "VIRTUAL" then createVirtualBehind
  else if ← acceptKeyword "SCHEMA" then createSchemaBehind
  else if ← acceptKeyword "DATABASE" then createDatabaseBehind
  else
    expectKeyword "SEQUENCE"
    createSequenceBehind temporary

/-- Reads CREATE behind its first word. -/
def createBehind (deeper : Grammar) : Reader String := do
  let replace ← openingWords ["OR", "REPLACE"]
  let isLocal ← acceptKeyword "LOCAL"
  let isGlobal ← acceptKeyword "GLOBAL"
  let transient ← openingWords ["TRANSIENT"]
  let temporary := if (← acceptOneOf ["TEMP", "TEMPORARY"]).isSome then "TEMPORARY " else ""
  if ← acceptKeyword "TABLE" then
    createTableBehind deeper (replace ++ reach isGlobal isLocal ++ temporary ++ transient)
  else if ← acceptKeywords ["MATERIALIZED", "VIEW"] then
    createViewBehind deeper (replace ++ "MATERIALIZED " ++ temporary)
  else if ← acceptKeyword "VIEW" then createViewBehind deeper (replace ++ temporary)
  else if !replace.isEmpty then refuse
  else createPlain deeper temporary

end VideoPlan.Sql.Reader
