import VideoPlan.Sql.Reader.Operand

/-!
# Reading JSON_TABLE

The function makes rows of a JSON value: its columns name the paths where their values are found.
-/

namespace VideoPlan.Sql.Reader

/-- Reads what takes the place of a value, if that comes next. -/
def optionalSubstitute : Reader (Option String) := do
  match ← acceptOneOf ["NULL", "ERROR", "DEFAULT"] with
  | some "DEFAULT" => return some ("DEFAULT " ++ (← constantText))
  | word => return word

/-- Reads what takes the place of a value that is missing or wrong, and the word for which of both, if
that comes next. -/
def optionalFallback : Reader (Option (String × String)) := do
  match ← optionalSubstitute with
  | some substitute =>
    expectKeyword "ON"
    return some (← expectOneOf ["EMPTY", "ERROR"], substitute)
  | none => return none

/-- Reads what takes the place of values that are missing and of those that are wrong. Of several for one
case the last counts. -/
def fallbacks : Reader String := do
  let all ← whileSome optionalFallback
  let last (event : String) : List String :=
    ((all.filter (·.1 = event)).getLast?.map fun fallback => fallback.2 ++ " ON " ++ event).toList
  return clauseTexts (last "EMPTY" ++ last "ERROR")

/-- Reads a column that is no group of columns. -/
def jsonColumn : Reader String := do
  let name ← identText
  if ← acceptKeyword "FOR" then
    expectKeyword "ORDINALITY"
    return name ++ " FOR ORDINALITY"
  else
    let type ← typeName
    let present ← closingWords ["EXISTS"]
    expectKeyword "PATH"
    let path ← constantText
    return name ++ " " ++ type ++ present ++ " PATH " ++ path ++ (← fallbacks)

/-- Reads columns with groups in groups up to the `depth`. -/
def jsonColumnsWithin : Nat → Reader String
  | 0 => refuse
  | depth + 1 =>
    commaTexts do
      if ← acceptKeyword "NESTED" then
        let _ ← acceptKeyword "PATH"
        let path ← constantText
        expectKeyword "COLUMNS"
        let columns ← inParens (jsonColumnsWithin depth)
        return "NESTED PATH " ++ path ++ " COLUMNS (" ++ columns ++ ")"
      else jsonColumn

/-- Reads what stands between the parentheses: the value, the path of the rows and their columns, of which
there are no more than tokens. -/
def jsonRows (deeper : Grammar) : Reader String := do
  let value ← exprText deeper
  expect .comma
  let path ← constantText
  expectKeyword "COLUMNS"
  let columns ← inParens do jsonColumnsWithin ((← get).length + 1)
  return value ++ ", " ++ path ++ " COLUMNS(" ++ columns ++ ")"

end VideoPlan.Sql.Reader
