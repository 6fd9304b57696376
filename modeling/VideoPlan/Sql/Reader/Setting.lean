import VideoPlan.Sql.Reader.Operand
import VideoPlan.Sql.Reader.Transaction

/-!
# Reading statements on settings

SET gives variables values, SHOW asks for them and for what there is.
-/

namespace VideoPlan.Sql.Reader

/-! ## SET -/

/-- Reads the character set of the names behind `NAMES`. -/
def namesBehind : Reader String := do
  if ← acceptKeyword "DEFAULT" then return "SET NAMES DEFAULT"
  else
    let set ← literalString
    return "SET NAMES " ++ set ++ (← clauseBehind ["COLLATE"] literalString)

/-- Reads the role that a session takes. -/
def roleBehind (modifier : Option String) : Reader String := do
  expectKeyword "ROLE"
  return "SET" ++ clauseText "" modifier ++ " ROLE " ++ (← identText)

/-- Reads what is set behind the name of a variable that has no sign behind it. -/
def unassigned (deeper : Grammar) (modifier : Option String) (scope target : String) :
    Reader String := do
  if Text.asciiUppercase target = "TIMEZONE" then
    return "SET " ++ scope ++ "TIME ZONE " ++ (← exprText deeper)
  else if target = "CHARACTERISTICS" then
    expectKeywords ["AS", "TRANSACTION"]
    return "SET SESSION CHARACTERISTICS AS TRANSACTION" ++ (← optionalModes)
  else if target = "TRANSACTION" && modifier.isNone then
    if ← acceptKeyword "SNAPSHOT" then return "SET TRANSACTION SNAPSHOT " ++ (← constantText)
    else return "SET TRANSACTION" ++ (← optionalModes)
  else refuse

/-- Reads the sign between a variable and its values, if it comes next. -/
def acceptAssignment : Reader Bool := do
  if ← acceptSymbol "=" then return true else acceptKeyword "TO"

/-- Reads SET of one variable behind the words that say how far it reaches. -/
def setVariable (deeper : Grammar) (modifier : Option String) (scope : String) : Reader String := do
  let target ← if ← acceptKeywords ["TIME", "ZONE"] then pure "TIMEZONE" else objectText
  if Text.asciiUppercase target = "NAMES" then namesBehind
  else if ← acceptAssignment then return "SET " ++ scope ++ target ++ " = " ++ (← exprTexts deeper)
  else unassigned deeper modifier scope target

/-- Reads SET of several variables in parentheses behind the words that say how far they reach. -/
def setVariables (deeper : Grammar) (scope : String) : Reader String := do
  let targets ← parenTexts identText
  if ← acceptAssignment then
    return "SET " ++ scope ++ targets ++ " = (" ++ (← inParens (exprTexts deeper)) ++ ")"
  else refuse

/-- Reads SET of one variable or several behind the words that say how far they reach. -/
def setTargets (deeper : Grammar) (modifier : Option String) (scope : String) : Reader String := do
  if (← peek? 0) = some .leftParen then setVariables deeper scope else setVariable deeper modifier scope

/-- Reads SET behind its first word. -/
def setBehind (deeper : Grammar) : Reader String := do
  let modifier ← acceptOneOf ["SESSION", "LOCAL", "HIVEVAR"]
  if modifier = some "HIVEVAR" then
    expectSymbol ":"
    setTargets deeper modifier "HIVEVAR:"
  else
    match ← attempt (roleBehind modifier) with
    | some text => return text
    | none => setTargets deeper modifier (if modifier = some "LOCAL" then "LOCAL " else "")

/-! ## SHOW -/

/-- Reads which of the shown things are wanted, if that comes next. -/
def optionalWanted (deeper : Grammar) : Reader String := do
  match ← acceptOneOf ["LIKE", "ILIKE", "WHERE"] with
  | some "WHERE" => return " WHERE " ++ (← exprText deeper)
  | some word => return " " ++ word ++ " " ++ quoted '\'' (← literalString)
  | none =>
    match ← attempt literalString with
    | some pattern => return " '" ++ pattern ++ "'"
    | none => return ""

/-- Reads where the shown things lie, if that comes next. -/
def optionalPlace : Reader String := do
  match ← acceptOneOf ["FROM", "IN"] with
  | some word => return " " ++ word ++ " " ++ (← identText)
  | none => return ""

/-- Takes all tokens up to an equals sign and answers the words among them. -/
def remainingWords : Reader (List String) := fun tokens =>
  match tokens with
  | [] => .ok ([], [])
  | .operator "=" :: rest => .ok ([], .operator "=" :: rest)
  | .word value quote :: rest =>
    match remainingWords rest with
    | .ok (words, rest) => .ok (Ident.text ⟨value, quote⟩ :: words, rest)
    | .error fault => .error fault
  | _ :: rest => remainingWords rest

/-- Reads SHOW of the columns of a table. The name of what the table lies in is written before it. -/
def showColumns (deeper : Grammar) (opening : String) : Reader String := do
  let _ ← expectOneOf ["FROM", "IN"]
  let table ← objectText
  let place ← do
    match ← acceptOneOf ["FROM", "IN"] with
    | some _ => pure ((← identText) ++ ".")
    | none => pure ""
  return opening ++ "COLUMNS FROM " ++ place ++ table ++ (← optionalWanted deeper)

/-- Reads SHOW of tables or views. -/
def showTables (deeper : Grammar) (opening : String) : Reader String := do
  let place ← optionalPlace
  return opening ++ place ++ (← optionalWanted deeper)

/-- Reads SHOW behind its first word. -/
def showBehind (deeper : Grammar) : Reader String := do
  let extended ← openingWords ["EXTENDED"]
  let full ← openingWords ["FULL"]
  let ofSession ← openingWords ["SESSION"]
  let ofAll ← openingWords ["GLOBAL"]
  let opening := "SHOW " ++ extended ++ full
  if (← acceptOneOf ["COLUMNS", "FIELDS"]).isSome then showColumns deeper opening
  else if ← acceptKeyword "TABLES" then showTables deeper (opening ++ "TABLES")
  else if ← acceptKeywords ["MATERIALIZED", "VIEWS"] then showTables deeper "SHOW MATERIALIZED VIEWS"
  else if ← acceptKeyword "VIEWS" then showTables deeper "SHOW VIEWS"
  else if ← acceptKeyword "FUNCTIONS" then return "SHOW FUNCTIONS" ++ (← optionalWanted deeper)
  else if !(extended ++ full).isEmpty then refuse
  else if ← acceptKeyword "CREATE" then
    let kind ← expectOneOf ["TABLE", "TRIGGER", "EVENT", "FUNCTION", "PROCEDURE", "VIEW"]
    return "SHOW CREATE " ++ kind ++ " " ++ (← objectText)
  else if let some word ← acceptOneOf ["COLLATION", "DATABASES", "SCHEMAS"] then
    return "SHOW " ++ word ++ (← optionalWanted deeper)
  else if let some word ← acceptOneOf ["VARIABLES", "STATUS"] then
    let scope := if ofAll.isEmpty then ofSession else ofAll
    return "SHOW " ++ scope ++ word ++ (← optionalWanted deeper)
  else return "SHOW" ++ clauseTexts (← remainingWords)

end VideoPlan.Sql.Reader
