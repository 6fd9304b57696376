import VideoPlan.Sql.Reader

/-!
# Reading GRANT and REVOKE

Who may do what with which things.
-/

namespace VideoPlan.Sql.Reader

/-- Things that may be done with some columns only. -/
def columnRights : List String :=
  ["INSERT", "REFERENCES", "SELECT", "UPDATE"]

/-- Other things that may be done. -/
def plainRights : List String :=
  ["CONNECT", "CREATE", "DELETE", "EXECUTE", "TEMPORARY", "TRIGGER", "TRUNCATE", "USAGE"]

/-- Reads something that may be done. -/
def right : Reader String := do
  match ← acceptOneOf columnRights with
  | some word => return word ++ columnsText (← optionalIdentifiers)
  | none => expectOneOf plainRights

/-- Reads what may be done. -/
def rights : Reader String := do
  if ← acceptKeyword "ALL" then return "ALL" ++ (← closingWords ["PRIVILEGES"]) else commaTexts right

/-- Reads the things that something may be done with. -/
def grantedThings : Reader String := do
  match ← acceptPhrase [["ALL", "TABLES", "IN", "SCHEMA"], ["ALL", "SEQUENCES", "IN", "SCHEMA"]] with
  | some words => return words ++ " " ++ (← commaTexts objectText)
  | none =>
    let kind ← do
      match ← acceptOneOf ["SEQUENCE", "SCHEMA", "TABLE"] with
      | some "TABLE" | none => pure ""
      | some word => pure (word ++ " ")
    return kind ++ (← commaTexts objectText)

/-- Reads GRANT behind its first word. -/
def grantBehind : Reader String := do
  let rights ← rights
  expectKeyword "ON"
  let things ← grantedThings
  expectKeyword "TO"
  let users ← commaTexts identText
  let onwards ← closingWords ["WITH", "GRANT", "OPTION"]
  return "GRANT " ++ rights ++ " ON " ++ things ++ " TO " ++ users ++ onwards ++
    (← clauseBehind ["GRANTED", "BY"] identText)

/-- Reads REVOKE behind its first word. -/
def revokeBehind : Reader String := do
  let rights ← rights
  expectKeyword "ON"
  let things ← grantedThings
  expectKeyword "FROM"
  let users ← commaTexts identText
  let granter ← clauseBehind ["GRANTED", "BY"] identText
  let cascade ← acceptKeyword "CASCADE"
  let restrict ← acceptKeyword "RESTRICT"
  if cascade && restrict then refuse
  else return "REVOKE " ++ rights ++ " ON " ++ things ++ " FROM " ++ users ++ granter ++
    if cascade then " CASCADE" else " RESTRICT"

end VideoPlan.Sql.Reader
