import VideoPlan.Sql.Reader.Change

/-!
# Reading columns and constraints of tables

The elements of a table that is created: columns with their options, and the constraints on the whole
table.
-/

namespace VideoPlan.Sql.Reader

/-! ## Options -/

/-- Reads an option by its name and its value. -/
def keyedOption (deeper : Grammar) : Reader String := do
  if ← peekKeyword 0 "HEAP" then identText
  else
    let key ← identText
    expectSymbol "="
    return key ++ " = " ++ (← exprText deeper)

/-- Reads options in parentheses. -/
def optionsInParens (deeper : Grammar) : Reader (List String) :=
  inParens (commaSeparated (keyedOption deeper))

/-- Reads options in parentheses behind a word, if the word comes next. -/
def keyedOptions (deeper : Grammar) (word : String) : Reader (List String) := do
  return (← behindKeyword word (optionsInParens deeper)).getD []

/-- Reads a number with an optional sign. -/
def signedNumber : Reader String := do
  let sign ← do
    if ← acceptSymbol "-" then pure "-" else if ← acceptSymbol "+" then pure "+" else pure ""
  match ← constant with
  | .number digits long => return sign ++ (Value.number digits long).text
  | .placeholder name => return sign ++ name
  | _ => refuse

/-! ## References -/

/-- When a constraint holds; each part may be said once. -/
structure Timing where
  deferrable : Option String := none
  initially : Option String := none
  enforced : Option String := none

/-- What a constraint says of its time, behind blanks. -/
def Timing.text (timing : Timing) : String :=
  clauseText "" timing.deferrable ++ clauseText "" timing.initially ++ clauseText "" timing.enforced

/-- Reads one more part of the time of a constraint that is not known yet. -/
def moreTiming (timing : Timing) : Reader (Option Timing) := do
  if timing.deferrable.isNone && (← acceptKeywords ["NOT", "DEFERRABLE"]) then
    return some { timing with deferrable := some "NOT DEFERRABLE" }
  else if timing.deferrable.isNone && (← acceptKeyword "DEFERRABLE") then
    return some { timing with deferrable := some "DEFERRABLE" }
  else if timing.initially.isNone && (← acceptKeyword "INITIALLY") then
    let moment ← expectOneOf ["DEFERRED", "IMMEDIATE"]
    return some { timing with initially := some ("INITIALLY " ++ moment) }
  else if timing.enforced.isNone && (← acceptKeyword "ENFORCED") then
    return some { timing with enforced := some "ENFORCED" }
  else if timing.enforced.isNone && (← acceptKeywords ["NOT", "ENFORCED"]) then
    return some { timing with enforced := some "NOT ENFORCED" }
  else return none

/-- Reads the parts of the time of a constraint as long as there are `fuel` of them. -/
def timingFrom : Nat → Timing → Reader Timing
  | 0, timing => return timing
  | fuel + 1, timing => do
    match ← moreTiming timing with
    | some timing => timingFrom fuel timing
    | none => return timing

/-- Reads when a constraint holds, in three parts at most. -/
def optionalTiming : Reader String := do
  return (← timingFrom 3 {}).text

/-- What may happen to rows that refer to a row that is gone. -/
def referenceActions : List (List String) :=
  [["RESTRICT"], ["CASCADE"], ["SET", "NULL"], ["NO", "ACTION"], ["SET", "DEFAULT"]]

/-- Reads what happens to the rows that refer to a row. -/
def referenceAction : Reader String := do
  match ← acceptPhrase referenceActions with
  | some action => return action
  | none => refuse

/-- Reads what happens when a row is removed or changed, each once and in either order; the removal is
written first. -/
def referenceEvents : Reader String := do
  let removal ← clauseBehind ["ON", "DELETE"] referenceAction
  let change ← clauseBehind ["ON", "UPDATE"] referenceAction
  let removal ← if removal.isEmpty then clauseBehind ["ON", "DELETE"] referenceAction else pure removal
  return removal ++ change

/-! ## Options of columns -/

/-- Reads the options of a sequence of numbers, each if it comes next. -/
def sequenceOptions : Reader String := do
  let step ← do
    if ← acceptKeyword "INCREMENT" then
      let byWord ← closingWords ["BY"]
      pure (" INCREMENT" ++ byWord ++ " " ++ (← signedNumber))
    else pure ""
  let bound (word : String) : Reader String := do
    if ← acceptKeyword word then return " " ++ word ++ " " ++ (← signedNumber)
    else closingWords ["NO", word]
  let least ← bound "MINVALUE"
  let most ← bound "MAXVALUE"
  let start ← do
    if ← acceptKeyword "START" then
      let withWord ← closingWords ["WITH"]
      pure (" START" ++ withWord ++ " " ++ (← signedNumber))
    else pure ""
  let cache ← clauseBehind ["CACHE"] signedNumber
  let cycle ← acceptPhrase [["NO", "CYCLE"], ["CYCLE"]]
  return step ++ least ++ most ++ start ++ cache ++ clauseText "" cycle

/-- Reads an expression that a column is computed by, and how it is kept. -/
def computedBehind (deeper : Grammar) : Reader String := do
  let expr ← inParens (exprText deeper)
  return "AS (" ++ expr ++ ")" ++ clauseText "" (← acceptOneOf ["STORED", "VIRTUAL"])

/-- Reads how the values of a column are made, behind `GENERATED`. -/
def generatedBehind (deeper : Grammar) : Reader String := do
  match ← acceptPhrase [["ALWAYS", "AS", "IDENTITY"], ["BY", "DEFAULT", "AS", "IDENTITY"]] with
  | some words =>
    if (← peek? 0) = some .leftParen then
      let options ← inParens sequenceOptions
      return "GENERATED " ++ words ++ if options.isEmpty then "" else " (" ++ options ++ " )"
    else return "GENERATED " ++ words
  | none =>
    expectKeywords ["ALWAYS", "AS"]
    return "GENERATED ALWAYS " ++ (← computedBehind deeper)

/-- Reads how the values of a column count up, behind `IDENTITY`. -/
def identityBehind : Reader String := do
  if (← peek? 0) = some .leftParen then
    inParens do
      let seed ← signedNumber
      expect .comma
      return "IDENTITY(" ++ seed ++ ", " ++ (← signedNumber) ++ ")"
  else return "IDENTITY"

/-- Reads the table that a column refers to, behind `REFERENCES`. -/
def referenceBehind : Reader String := do
  let table ← objectText
  let columns ← optionalIdentifiers
  let events ← referenceEvents
  return table ++ columnsText columns ++ events ++ (← optionalTiming)

/-- Reads an expression of a column that is computed on the way; it may be missing before a comma or a
closing parenthesis. -/
def ephemeralBehind (deeper : Grammar) : Reader String := do
  let next ← peek? 0
  if next = some .comma || next = some .rightParen then return "EPHEMERAL"
  else return "EPHEMERAL " ++ (← exprText deeper)

/-- Options of columns that are an expression behind words. -/
def expressionOptions : List (List String) :=
  [["DEFAULT"], ["MATERIALIZED"], ["ALIAS"], ["ON", "UPDATE"]]

/-- Reads an option of a column that is an expression behind words, if one comes next. -/
def expressionOption (deeper : Grammar) : Reader (Option String) := do
  match ← acceptPhrase expressionOptions with
  | some words => return some (words ++ " " ++ (← exprText deeper))
  | none => return none

/-- Reads an option of a column that its values must agree with, if one comes next. -/
def checkedOption (deeper : Grammar) : Reader (Option String) := do
  if let some words ← acceptPhrase [["PRIMARY", "KEY"], ["UNIQUE"]] then
    return some (words ++ (← optionalTiming))
  else if ← acceptKeyword "REFERENCES" then return some ("REFERENCES " ++ (← referenceBehind))
  else if ← acceptKeyword "CHECK" then
    return some ("CHECK (" ++ (← inParens (exprText deeper)) ++ ")")
  else if ← acceptKeywords ["ON", "CONFLICT"] then
    return some ("ON CONFLICT " ++ (← expectOneOf ["ROLLBACK", "ABORT", "FAIL", "IGNORE", "REPLACE"]))
  else return none

/-- Reads any other option of a column, if one comes next. -/
def otherOption (deeper : Grammar) : Reader (Option String) := do
  if ← acceptKeywords ["CHARACTER", "SET"] then return some ("CHARACTER SET " ++ (← objectText))
  else if ← acceptKeyword "COMMENT" then return some ("COMMENT " ++ quoted '\'' (← plainString))
  else if ← acceptKeyword "EPHEMERAL" then return some (← ephemeralBehind deeper)
  else if ← acceptKeyword "GENERATED" then return some (← generatedBehind deeper)
  else if ← acceptKeyword "OPTIONS" then
    return some ("OPTIONS(" ++ commaList (← optionsInParens deeper) ++ ")")
  else if ← acceptKeyword "AS" then return some (← computedBehind deeper)
  else if ← acceptKeyword "IDENTITY" then return some (← identityBehind)
  else acceptPhrase [["NOT", "NULL"], ["NULL"], ["AUTO_INCREMENT"], ["AUTOINCREMENT"], ["ASC"], ["DESC"]]

/-- Reads an option of a column, if one comes next. -/
def columnOption (deeper : Grammar) : Reader (Option String) := do
  if let some option ← expressionOption deeper then return some option
  else if let some option ← checkedOption deeper then return some option
  else otherOption deeper

/-- Reads an option of a column with the name of its constraint, if one comes next. -/
def namedOption (deeper : Grammar) : Reader (Option String) := do
  if ← acceptKeyword "CONSTRAINT" then
    let name ← identText
    match ← columnOption deeper with
    | some option => return some ("CONSTRAINT " ++ name ++ " " ++ option)
    | none => refuse
  else columnOption deeper

/-- Reads an option of a column or the order of its letters, which the flag tells, if one comes next. -/
def optionOrCollation (deeper : Grammar) : Reader (Option (Bool × String)) := do
  match ← namedOption deeper with
  | some option => return some (false, option)
  | none =>
    let collation ← clause ["COLLATE"] objectText
    return collation.map (true, ·)

/-- Reads a column. Of several orders of letters the last counts; it is written before the options. -/
def column (deeper : Grammar) : Reader String := do
  let name ← identText
  let type ← typeName
  let options ← whileSome (optionOrCollation deeper)
  let collation := (options.filter (·.1)).getLast?.toList
  return name ++ " " ++ type ++ clauseTexts ((collation ++ options.filter (!·.1)).map (·.2))

/-! ## Constraints of tables -/

/-- Reads `USING` with the kind of an index, if it comes next. -/
def optionalIndexType : Reader String :=
  clauseBehind ["USING"] (expectOneOf ["BTREE", "HASH"])

/-- Reads an option of an index, if one comes next. -/
def indexOption : Reader (Option String) := do
  let type ← optionalIndexType
  if !type.isEmpty then return some type
  else if ← acceptKeyword "COMMENT" then return some (" COMMENT '" ++ (← literalString) ++ "'")
  else return none

/-- Reads the name of an index, if one comes next. -/
def optionalIndexName : Reader String := do
  return clauseText "" (← attempt identText)

/-- Reads the columns of a key behind its words. -/
def keyBehind (words : String) : Reader String := do
  let name ← optionalIndexName
  let type ← optionalIndexType
  let columns ← parenTexts identText
  let options ← whileSome indexOption
  return words ++ name ++ type ++ " " ++ columns ++ String.join options ++ (← optionalTiming)

/-- Reads the columns that refer to those of another table behind `FOREIGN KEY`. -/
def foreignKeyBehind : Reader String := do
  let columns ← parenTexts identText
  expectKeyword "REFERENCES"
  let table ← objectText
  let referred ← parenTexts identText
  let events ← referenceEvents
  return "FOREIGN KEY " ++ columns ++ " REFERENCES " ++ table ++ referred ++ events ++ (← optionalTiming)

/-- Reads the columns of an index behind its first word. -/
def indexBehind (word : String) : Reader String := do
  let name ← if ← peekKeyword 0 "USING" then pure "" else optionalIndexName
  let type ← optionalIndexType
  return word ++ name ++ type ++ " " ++ (← parenTexts identText)

/-- Reads the columns of an index of words or places behind its first word. -/
def searchIndexBehind (word : String) : Reader String := do
  let kind ← acceptOneOf ["KEY", "INDEX"]
  let name ← optionalIndexName
  return word ++ clauseText "" kind ++ name ++ " " ++ (← parenTexts identText)

/-- Reads a constraint that may have a name, if one comes next. -/
def nameableConstraint (deeper : Grammar) : Reader (Option String) := do
  if ← acceptKeyword "PRIMARY" then
    expectKeyword "KEY"
    return some (← keyBehind "PRIMARY KEY")
  else if ← acceptKeyword "UNIQUE" then
    let kind ← acceptOneOf ["KEY", "INDEX"]
    return some (← keyBehind ("UNIQUE" ++ clauseText "" kind))
  else if ← acceptKeyword "FOREIGN" then
    expectKeyword "KEY"
    return some (← foreignKeyBehind)
  else if ← acceptKeyword "CHECK" then
    return some ("CHECK (" ++ (← inParens (exprText deeper)) ++ ")")
  else return none

/-- Reads a constraint of a table, if one comes next. -/
def tableConstraint (deeper : Grammar) : Reader (Option String) := do
  if ← acceptKeyword "CONSTRAINT" then
    let name ← identText
    match ← nameableConstraint deeper with
    | some constraint => return some ("CONSTRAINT " ++ name ++ " " ++ constraint)
    | none => refuse
  else if let some word ← acceptOneOf ["INDEX", "KEY"] then return some (← indexBehind word)
  else if let some word ← acceptOneOf ["FULLTEXT", "SPATIAL"] then return some (← searchIndexBehind word)
  else nameableConstraint deeper

/-- Reads a column or a constraint of a table; the flag tells constraints. A column starts with a word. -/
def tableElement (deeper : Grammar) : Reader (Bool × String) := do
  match ← tableConstraint deeper with
  | some constraint => return (true, constraint)
  | none =>
    match ← peek? 0 with
    | some (.word _ _) => return (false, ← column deeper)
    | _ => refuse

/-- Reads the columns and constraints of a table in parentheses, if one comes next; there may be none.
Columns are written before constraints. -/
def tableElements (deeper : Grammar) : Reader (List String) := do
  if ← accept .leftParen then
    let elements ← commaSeparatedUpTo .rightParen (tableElement deeper)
    expect .rightParen
    return (elements.filter (!·.1) ++ elements.filter (·.1)).map (·.2)
  else return []

end VideoPlan.Sql.Reader
