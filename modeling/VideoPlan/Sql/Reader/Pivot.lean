import VideoPlan.Sql.Reader.Operand

/-!
# Reading PIVOT and UNPIVOT

PIVOT makes columns of the values that one column has, UNPIVOT makes rows of columns. Both stand behind
what they read from, and either may follow the other.
-/

namespace VideoPlan.Sql.Reader

/-- Reads a name behind `AS`, if the word comes next. -/
def namedBy : Reader String :=
  clauseBehind ["AS"] identText

/-- Reads a call whose results fill the new columns, perhaps with a name. The quotes of the function are
dropped. -/
def namedCall (deeper : Grammar) : Reader String := do
  match ← next? with
  | some (.word value _) =>
    expect .leftParen
    let call ← callBehind deeper [⟨value, none⟩]
    return call.text ++ (← namedBy)
  | _ => refuse

/-- Reads the values that become columns: any, those of a query, or the listed ones. -/
def pivotValues (deeper : Grammar) : Reader String := do
  if ← acceptKeyword "ANY" then return "ANY" ++ clauseText "" (← optionalOrderBy deeper)
  else if ← peekQuery then return (← deeper.query).text
  else commaTexts do return (← exprText deeper) ++ (← namedBy)

/-- Reads PIVOT behind its first word, with another name for the rows that it makes. -/
def pivotBehind (deeper : Grammar) : Reader (String × Option String) := do
  let clause ← inParens do
    let calls ← commaTexts (namedCall deeper)
    expectKeyword "FOR"
    let column ← objectText
    expectKeyword "IN"
    let values ← inParens (pivotValues deeper)
    let default ← clauseBehind ["DEFAULT", "ON", "NULL"] do
      return "(" ++ (← inParens (exprText deeper)) ++ ")"
    return calls ++ " FOR " ++ column ++ " IN (" ++ values ++ ")" ++ default
  return ("PIVOT(" ++ clause ++ ")", ← optionalTableAlias)

/-- Reads UNPIVOT behind its first word, with another name for the rows that it makes. -/
def unpivotBehind : Reader (String × Option String) := do
  let clause ← inParens do
    let value ← identText
    expectKeyword "FOR"
    let name ← identText
    expectKeyword "IN"
    return value ++ " FOR " ++ name ++ " IN " ++ (← parenTexts identText)
  return ("UNPIVOT(" ++ clause ++ ")", ← optionalTableAlias)

/-- Reads the clauses behind what is read from that make columns of rows or rows of columns. -/
def pivoted (deeper : Grammar) (factor : TableFactor) : Reader TableFactor := do
  let turns ← whileSome do
    match ← acceptOneOf ["PIVOT", "UNPIVOT"] with
    | some "PIVOT" => return some (← pivotBehind deeper)
    | some _ => return some (← unpivotBehind)
    | none => return none
  return turns.foldl TableFactor.turned factor

end VideoPlan.Sql.Reader
