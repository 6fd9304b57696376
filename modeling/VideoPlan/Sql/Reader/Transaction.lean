import VideoPlan.Sql.Reader

/-!
# Reading statements on transactions

Where a transaction starts, how it runs and how it ends.
-/

namespace VideoPlan.Sql.Reader

/-- How a transaction may run beside others and what it may do. -/
def transactionModes : List (List String) :=
  [["ISOLATION", "LEVEL", "READ", "UNCOMMITTED"], ["ISOLATION", "LEVEL", "READ", "COMMITTED"],
    ["ISOLATION", "LEVEL", "REPEATABLE", "READ"], ["ISOLATION", "LEVEL", "SERIALIZABLE"],
    ["READ", "ONLY"], ["READ", "WRITE"]]

/-- Reads one more mode of a transaction behind an optional comma, if one comes next. -/
def moreMode : Reader (Option String) := do
  let required ← accept .comma
  match ← acceptPhrase transactionModes with
  | some mode => return some mode
  | none => if required then refuse else return none

/-- Reads the modes of a transaction, behind a blank; the commas between them may be missing. -/
def optionalModes : Reader String := do
  match ← acceptPhrase transactionModes with
  | none => return ""
  | some first => return " " ++ commaList (first :: (← whileSome moreMode))

/-- Reads BEGIN behind its first word. -/
def beginBehind : Reader String := do
  let modifier ← acceptOneOf ["DEFERRED", "IMMEDIATE", "EXCLUSIVE"]
  let _ ← acceptOneOf ["TRANSACTION", "WORK"]
  return "BEGIN" ++ clauseText "" modifier ++ " TRANSACTION" ++ (← optionalModes)

/-- Reads START TRANSACTION behind its first word. -/
def startBehind : Reader String := do
  expectKeyword "TRANSACTION"
  return "START TRANSACTION" ++ (← optionalModes)

/-- Reads the end of a transaction behind its first word. -/
def chainBehind : Reader String := do
  let _ ← acceptOneOf ["TRANSACTION", "WORK"]
  if ← acceptKeyword "AND" then
    let no ← acceptKeyword "NO"
    expectKeyword "CHAIN"
    return if no then "" else " AND CHAIN"
  else return ""

/-- Reads ROLLBACK behind its first word. -/
def rollbackBehind : Reader String := do
  let chain ← chainBehind
  if ← acceptKeyword "TO" then
    let _ ← acceptKeyword "SAVEPOINT"
    return "ROLLBACK" ++ chain ++ " TO SAVEPOINT " ++ (← identText)
  else return "ROLLBACK" ++ chain

/-- Reads a statement on a transaction, if one comes next. -/
def optionalTransaction : Reader (Option String) := do
  if (← acceptOneOf ["COMMIT", "END"]).isSome then return some ("COMMIT" ++ (← chainBehind))
  else if ← acceptKeyword "ROLLBACK" then return some (← rollbackBehind)
  else if ← acceptKeyword "BEGIN" then return some (← beginBehind)
  else if ← acceptKeyword "START" then return some (← startBehind)
  else if ← acceptKeyword "SAVEPOINT" then return some ("SAVEPOINT " ++ (← identText))
  else if ← acceptKeyword "RELEASE" then
    let _ ← acceptKeyword "SAVEPOINT"
    return some ("RELEASE SAVEPOINT " ++ (← identText))
  else return none

end VideoPlan.Sql.Reader
