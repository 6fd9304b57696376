import VideoPlan.Sql.Reader.Change

/-!
# Reading MERGE

MERGE changes a table by the rows of another source. What happens to a row depends on whether it has a
counterpart; rows without one in the table can only be inserted.
-/

namespace VideoPlan.Sql.Reader

/-- The rows that a branch is about, longer words first; the flag tells those that the table lacks. -/
def mergeKinds : List (List String × Bool) :=
  [(["NOT", "MATCHED", "BY", "SOURCE"], false), (["NOT", "MATCHED", "BY", "TARGET"], true),
    (["NOT", "MATCHED"], true), (["MATCHED"], false)]

/-- Reads which rows a branch is about, from these kinds. -/
def mergeKind : List (List String × Bool) → Reader (String × Bool)
  | [] => refuse
  | (words, isMissing) :: kinds => do
    if ← acceptKeywords words then return (" ".intercalate words, isMissing) else mergeKind kinds

/-- Reads the row that a branch inserts. -/
def mergedRow (deeper : Grammar) : Reader String := do
  let columns ← optionalIdentifiers
  if ← acceptKeyword "ROW" then return "INSERT" ++ columnsText columns ++ " ROW"
  else
    expectKeyword "VALUES"
    let (explicitRow, rows) ← valueRows deeper
    return "INSERT" ++ columnsText columns ++ " " ++ valuesText explicitRow rows

/-- Reads what a branch does. -/
def mergeAction (deeper : Grammar) (isMissing : Bool) : Reader String := do
  if isMissing then
    expectKeyword "INSERT"
    mergedRow deeper
  else if ← acceptKeyword "DELETE" then return "DELETE"
  else
    expectKeywords ["UPDATE", "SET"]
    return "UPDATE SET " ++ (← assignments deeper)

/-- Reads a branch, if one comes next. -/
def mergeBranch (deeper : Grammar) : Reader (Option String) := do
  if ← acceptKeyword "WHEN" then
    let (kind, isMissing) ← mergeKind mergeKinds
    let filter ← clauseBehind ["AND"] (exprText deeper)
    expectKeyword "THEN"
    return some ("WHEN " ++ kind ++ filter ++ " THEN " ++ (← mergeAction deeper isMissing))
  else return none

/-- Reads MERGE behind its first word. -/
def mergeBehind (deeper : Grammar) : Reader String := do
  let into ← closingWords ["INTO"]
  let table ← tableFactor deeper
  expectKeyword "USING"
  let source ← tableFactor deeper
  expectKeyword "ON"
  let condition ← exprText deeper
  let branches ← whileSome (mergeBranch deeper)
  return "MERGE" ++ into ++ " " ++ table.text ++ " USING " ++ source.text ++ " ON " ++ condition ++ " " ++
    " ".intercalate branches

end VideoPlan.Sql.Reader
