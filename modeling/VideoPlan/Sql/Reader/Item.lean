import VideoPlan.Sql.Reader.Operand

/-!
# Reading items of SELECT lists

An item is an expression, perhaps with another name, or a wildcard with the options that shape it.
-/

namespace VideoPlan.Sql.Reader

/-! ## Options of wildcards -/

/-- Reads `EXCLUDE` with one name or several in parentheses, if it comes next. -/
def optionalExclude : Reader (Option String) :=
  clause ["EXCLUDE"] do
    match ← optionalIdentifiers with
    | [] => identText
    | names => return "(" ++ identList names ++ ")"

/-- Reads `EXCEPT` with one name or several in parentheses, if it comes next. -/
def optionalExcept : Reader (Option String) :=
  clause ["EXCEPT"] do
    match ← optionalIdentifiers with
    | [] => return "(" ++ (← identText) ++ ")"
    | names => return "(" ++ identList names ++ ")"

/-- Reads `REPLACE` with expressions and the names that they take, if it comes next. -/
def optionalReplace (deeper : Grammar) : Reader (Option String) :=
  clause ["REPLACE"] (parenTexts do
    let expr ← exprText deeper
    let as := if ← acceptKeyword "AS" then " AS " else " "
    return expr ++ as ++ (← identText))

/-- Reads `RENAME` with names and new names, if it comes next. -/
def optionalRename : Reader (Option String) :=
  clause ["RENAME"] do
    let element : Reader String := do
      let name ← identText
      expectKeyword "AS"
      return name ++ " AS " ++ (← identText)
    if (← peek? 0) = some .leftParen then parenTexts element else element

/-- Reads `ILIKE` with a pattern in quotes, if it comes next. -/
def optionalPattern : Reader (Option String) :=
  clause ["ILIKE"] (quoted '\'' <$> plainString)

/-- Reads the options behind a wildcard. -/
def wildcardOptions (deeper : Grammar) : Reader String := do
  let pattern ← optionalPattern
  let exclude ← if pattern.isSome then pure none else optionalExclude
  let except ← optionalExcept
  let replace ← optionalReplace deeper
  let rename ← optionalRename
  return String.join ([pattern, exclude, except, replace, rename].map (clauseText ""))

/-! ## Items -/

/-- Whether the expression is the word `from`, which cannot start an item. -/
def isFrom : Expr → Bool
  | .ident ⟨value, none⟩ => Text.lowercase value = "from"
  | _ => false

/-- Reads an item of a SELECT list. -/
def selectItem (deeper : Grammar) : Reader SelectItem := do
  match ← starred deeper with
  | .star => return .wildcard (← wildcardOptions deeper)
  | .qualified name => return .qualifiedWildcard name (← wildcardOptions deeper)
  | .plain expr =>
    if isFrom expr then refuse
    else match ← optionalAlias notColumnAliases with
      | some label => return .aliased expr label
      | none => return .plain expr

/-- Reads items with commas between them, as one text. -/
def itemTexts (deeper : Grammar) : Reader String :=
  commaTexts do return (← selectItem deeper).text

/-- Reads the items of a RETURNING clause, if it comes next. -/
def optionalReturning (deeper : Grammar) : Reader (Option String) :=
  clause ["RETURNING"] (itemTexts deeper)

end VideoPlan.Sql.Reader
