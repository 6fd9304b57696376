import VideoPlan.Sql.Reader.Operand

/-!
# Reading MATCH_RECOGNIZE

The clause looks for runs of rows that fit a pattern, which is written as a regular expression over names
for kinds of rows.
-/

namespace VideoPlan.Sql.Reader

/-! ## Patterns -/

/-- Reads how often a part of a pattern may occur, between braces and behind the opening one. -/
def occurrencesBehind : Reader String := do
  if ← accept .comma then
    let most ← smallNumber
    expectSymbol "\x7d"
    return "\x7b," ++ most ++ "\x7d"
  else
    let least ← smallNumber
    if ← accept .comma then
      if ← acceptSymbol "\x7d" then return "\x7b" ++ least ++ ",\x7d"
      else
        let most ← smallNumber
        expectSymbol "\x7d"
        return "\x7b" ++ least ++ "," ++ most ++ "\x7d"
    else
      expectSymbol "\x7d"
      return "\x7b" ++ least ++ "\x7d"

/-- Reads how often a part of a pattern may occur, if that comes next. -/
def optionalOccurrences : Reader (Option String) := do
  if ← acceptSymbol "*" then return some "*"
  else if ← acceptSymbol "+" then return some "+"
  else if ← accept (.placeholder "?") then return some "?"
  else if ← acceptSymbol "\x7b" then return some (← occurrencesBehind)
  else return none

/-- Reads a part of a pattern: a kind of row, the start or the end of the rows, or a group. -/
def patternPart (pattern : Reader String) : Reader String := do
  if ← acceptSymbol "^" then return "^"
  else if ← accept (.placeholder "$") then return "$"
  else if ← acceptSymbol "\x7b" then
    expectSymbol "-"
    let name ← identText
    expectSymbol "-"
    expectSymbol "\x7d"
    return "\x7b- " ++ name ++ " -\x7d"
  else if ← accept (.word "PERMUTE" none) then return "PERMUTE" ++ (← parenTexts identText)
  else if ← accept .leftParen then
    let group ← pattern
    expect .rightParen
    return "( " ++ group ++ " )"
  else identText

/-- Reads parts of a pattern one behind the other, up to a closing parenthesis or a bar. -/
def patternParts (pattern : Reader String) : Reader String := do
  let part : Reader String := do
    let part ← patternPart pattern
    return part ++ String.join (← whileSome optionalOccurrences)
  let first ← part
  let more ← whileSome do
    let next ← peek? 0
    if next = some .rightParen || next = some (.operator "|") then return none else return some (← part)
  return first ++ clauseTexts more

/-- Reads a pattern with groups in groups up to the `depth`. -/
def patternWithin : Nat → Reader String
  | 0 => refuse
  | depth + 1 => do
    return " | ".intercalate (← separatedBy (.operator "|") (patternParts (patternWithin depth)))

/-- Reads a pattern. It has no more groups than there are tokens. -/
def rowPattern : Reader String := do
  patternWithin ((← get).length + 1)

/-! ## The clause -/

/-- How the rows of a run may be answered. -/
def answeredRows : List (List String) :=
  [["ONE", "ROW", "PER", "MATCH"], ["ALL", "ROWS", "PER", "MATCH", "SHOW", "EMPTY", "MATCHES"],
    ["ALL", "ROWS", "PER", "MATCH", "OMIT", "EMPTY", "MATCHES"],
    ["ALL", "ROWS", "PER", "MATCH", "WITH", "UNMATCHED", "ROWS"], ["ALL", "ROWS", "PER", "MATCH"]]

/-- Where the search may go on behind a run. -/
def skipPhrases : List (List String) :=
  [["PAST", "LAST", "ROW"], ["TO", "NEXT", "ROW"], ["TO", "FIRST"], ["TO", "LAST"]]

/-- Reads where the search goes on behind a run, if that comes next. -/
def optionalSkip : Reader (Option String) :=
  clause ["AFTER", "MATCH", "SKIP"] do
    match ← acceptPhrase skipPhrases with
    | some "TO FIRST" => return "TO FIRST " ++ (← identText)
    | some "TO LAST" => return "TO LAST " ++ (← identText)
    | some place => return place
    | none => refuse

/-- Reads what is computed for each run. -/
def measures (deeper : Grammar) : Reader String :=
  commaTexts do
    let expr ← exprText deeper
    let _ ← acceptKeyword "AS"
    return expr ++ " AS " ++ (← identText)

/-- Reads which rows are of which kind. -/
def rowKinds (deeper : Grammar) : Reader String :=
  commaTexts do
    let name ← identText
    expectKeyword "AS"
    return name ++ " AS " ++ (← exprText deeper)

/-- Reads MATCH_RECOGNIZE with another name for its rows, if it comes next. -/
def optionalMatches (deeper : Grammar) : Reader (Option (String × Option String)) :=
  behindKeyword "MATCH_RECOGNIZE" do
    let text ← inParens do
      let partition ← clause ["PARTITION", "BY"] (exprTexts deeper)
      let order ← optionalOrderBy deeper
      let measured ← clause ["MEASURES"] (measures deeper)
      let answered ← acceptPhrase answeredRows
      let skip ← optionalSkip
      expectKeyword "PATTERN"
      let pattern ← inParens rowPattern
      expectKeyword "DEFINE"
      let kinds ← rowKinds deeper
      let opening := [partition, order, measured, answered, skip].filterMap id
      return " ".intercalate (opening ++ ["PATTERN (" ++ pattern ++ ") DEFINE " ++ kinds])
    return ("MATCH_RECOGNIZE(" ++ text ++ ")", ← optionalTableAlias)

end VideoPlan.Sql.Reader
