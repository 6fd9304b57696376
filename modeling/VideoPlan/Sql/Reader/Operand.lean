import VideoPlan.Sql.Reader.Call
import VideoPlan.Sql.Reader.TypeName

/-!
# Reading operands

An operand is a constant, a name, a call or one of the many forms that a word opens. Most of these forms
have no meaning in a plan and are read as their text.
-/

namespace VideoPlan.Sql.Reader

/-! ## Forms that a word opens -/

/-- Reads one or more texts with a word between each two of them. -/
def separatedByKeyword (name : String) (item : Reader String) : Reader (List String) := do
  let first ← item
  return first :: (← whileSome (behindKeyword name item))

/-- Reads the branches of CASE behind the first `WHEN`. -/
def caseBranches (deeper : Grammar) : Reader String := do
  let branch : Reader String := do
    let condition ← exprText deeper
    expectKeyword "THEN"
    return " WHEN " ++ condition ++ " THEN " ++ (← exprText deeper)
  let branches ← separatedByKeyword "WHEN" branch
  let otherwise ← clauseBehind ["ELSE"] (exprText deeper)
  expectKeyword "END"
  return String.join branches ++ otherwise ++ " END"

/-- Reads CASE behind its first word. -/
def caseBehind (deeper : Grammar) : Reader String := do
  if ← acceptKeyword "WHEN" then return "CASE" ++ (← caseBranches deeper)
  else
    let operand ← exprText deeper
    expectKeyword "WHEN"
    return "CASE " ++ operand ++ (← caseBranches deeper)

/-- Reads the format of a conversion, if it comes next. -/
def optionalCastFormat : Reader String :=
  clauseBehind ["FORMAT"] do return (← constantText) ++ (← clauseBehind ["AT", "TIME", "ZONE"] constantText)

/-- Reads a conversion to a type in parentheses behind its first word. -/
def castBehind (word : String) (deeper : Grammar) : Reader String :=
  inParens do
    let operand ← exprText deeper
    expectKeyword "AS"
    let type ← typeName
    return word ++ "(" ++ operand ++ " AS " ++ type ++ (← optionalCastFormat) ++ ")"

/-- Reads a conversion to a type or a character set behind its first word. -/
def convertBehind (word : String) (deeper : Grammar) : Reader String :=
  inParens do
    let operand ← exprText deeper
    if ← acceptKeyword "USING" then return word ++ "(" ++ operand ++ " USING " ++ (← objectText) ++ ")"
    else
      expect .comma
      let type ← typeName
      let set ← clauseBehind ["CHARACTER", "SET"] objectText
      return word ++ "(" ++ operand ++ ", " ++ type ++ set ++ ")"

/-- Reads EXISTS behind its first word. -/
def existsBehind (deeper : Grammar) : Reader String := do
  expect .leftParen
  return "EXISTS (" ++ (← queryBehind deeper) ++ ")"

/-- Reads EXTRACT behind its first word. -/
def extractBehind (deeper : Grammar) : Reader String :=
  inParens do
    let part ← momentPart
    if ← acceptKeyword "FROM" then return "EXTRACT(" ++ part ++ " FROM " ++ (← exprText deeper) ++ ")"
    else
      expect .comma
      return "EXTRACT(" ++ part ++ ", " ++ (← exprText deeper) ++ ")"

/-- Reads CEIL or FLOOR behind its first word. -/
def roundingBehind (word : String) (deeper : Grammar) : Reader String :=
  inParens do
    let operand ← exprText deeper
    if ← acceptKeyword "TO" then return word ++ "(" ++ operand ++ " TO " ++ (← momentPart) ++ ")"
    else if ← accept .comma then
      match ← constant with
      | .number digits long =>
        return word ++ "(" ++ operand ++ ", " ++ (Value.number digits long).text ++ ")"
      | _ => refuse
    else return word ++ "(" ++ operand ++ ")"

/-- Reads SUBSTRING behind its first word. Once a comma is read, both bounds are written behind commas. -/
def substringBehind (deeper : Grammar) : Reader String :=
  inParens do
    let operand ← exprText deeper
    let comma ← accept .comma
    let start ← do
      if comma then pure (", " ++ (← exprText deeper)) else clauseBehind ["FROM"] (exprText deeper)
    let bounded ← do
      if ← acceptKeyword "FOR" then pure true else accept .comma
    let length ← do
      if bounded then pure ((if comma then ", " else " FOR ") ++ (← exprText deeper)) else pure ""
    return "SUBSTRING(" ++ operand ++ start ++ length ++ ")"

/-- Reads OVERLAY behind its first word. -/
def overlayBehind (deeper : Grammar) : Reader String :=
  inParens do
    let operand ← exprText deeper
    expectKeyword "PLACING"
    let placed ← exprText deeper
    expectKeyword "FROM"
    let start ← exprText deeper
    let length ← clauseBehind ["FOR"] (exprText deeper)
    return "OVERLAY(" ++ operand ++ " PLACING " ++ placed ++ " FROM " ++ start ++ length ++ ")"

/-- Reads TRIM behind its first word. A side is forgotten when a list of characters follows. -/
def trimBehind (deeper : Grammar) : Reader String :=
  inParens do
    let side ← acceptOneOf ["BOTH", "LEADING", "TRAILING"]
    let opening := match side with
      | some word => "TRIM(" ++ word ++ " "
      | none => "TRIM("
    let operand ← exprText deeper
    if ← acceptKeyword "FROM" then return opening ++ operand ++ " FROM " ++ (← exprText deeper) ++ ")"
    else if ← accept .comma then return "TRIM(" ++ operand ++ ", " ++ (← exprTexts deeper) ++ ")"
    else return opening ++ operand ++ ")"

/-- The ways to search for words in a text. -/
def searchModes : List (List String) :=
  [["IN", "NATURAL", "LANGUAGE", "MODE", "WITH", "QUERY", "EXPANSION"],
    ["IN", "NATURAL", "LANGUAGE", "MODE"], ["IN", "BOOLEAN", "MODE"], ["WITH", "QUERY", "EXPANSION"]]

/-- Reads MATCH behind its first word. -/
def matchBehind (_ : Grammar) : Reader String := do
  let columns ← identifiersInParens
  expectKeyword "AGAINST"
  inParens do
    let value ← constantText
    let mode ← acceptPhrase searchModes
    return "MATCH (" ++ identList columns ++ ") AGAINST (" ++ value ++ clauseText "" mode ++ ")"

/-- Reads STRUCT behind its first word. Where the type names the fields, the values do not. -/
def structureBehind (deeper : Grammar) : Reader String := do
  let (fields, endsOuter) ← optionalFields anyType
  let value : Reader String := do
    let expr ← exprText deeper
    if ← acceptKeyword "AS" then
      if fields.isEmpty then return expr ++ " AS " ++ (← identText) else refuse
    else return expr
  if endsOuter then refuse else return structureText fields ++ (← parenTexts value)

/-- The forms that a word opens wherever it stands without quotes. -/
def wordForms : List (String × (Grammar → Reader String)) :=
  [("CASE", caseBehind), ("CAST", castBehind "CAST"), ("TRY_CAST", castBehind "TRY_CAST"),
    ("SAFE_CAST", castBehind "SAFE_CAST"), ("CONVERT", convertBehind "CONVERT"),
    ("TRY_CONVERT", convertBehind "TRY_CONVERT"), ("EXISTS", existsBehind), ("EXTRACT", extractBehind),
    ("CEIL", roundingBehind "CEIL"), ("FLOOR", roundingBehind "FLOOR"), ("SUBSTRING", substringBehind),
    ("OVERLAY", overlayBehind), ("TRIM", trimBehind), ("MATCH", matchBehind), ("STRUCT", structureBehind)]

/-- Reads POSITION behind its first word. -/
def positionBehind (deeper : Grammar) : Reader String :=
  inParens do
    let operand ← deeper.expr Level.comparison
    expectKeyword "IN"
    return "POSITION(" ++ operand.text ++ " IN " ++ (← exprText deeper) ++ ")"

/-! ## Collections -/

/-- Reads the elements of an array behind its opening bracket. -/
def arrayBehind (word : String) (deeper : Grammar) : Reader Expr := do
  let elements ← commaSeparatedUpTo (.operator "]") (exprText deeper)
  expectSymbol "]"
  return .other (word ++ "[" ++ commaList elements ++ "]")

/-- Reads the entries of a dictionary behind its opening brace. -/
def entriesBehind (opening : String) (key value : Reader String) : Reader Expr := do
  let entry : Reader String := do
    let key ← key
    expectSymbol ":"
    return key ++ ": " ++ (← value)
  let entries ← commaSeparatedUpTo (.operator "\x7d") entry
  expectSymbol "\x7d"
  return .other (opening ++ "\x7b" ++ commaList entries ++ "\x7d")

/-- Reads the name of a part behind a composite value in parentheses, if a point comes next. -/
def optionalPart (inner : Expr) : Reader Expr := do
  if ← accept .period then
    match ← next? with
    | some (.word value quote) => return .other (inner.text ++ "." ++ Ident.text ⟨value, quote⟩)
    | _ => refuse
  else return inner

/-- Reads on behind an opening parenthesis: a query, one expression or several. -/
def parenBehind (deeper : Grammar) : Reader Expr := do
  if ← peekQuery then optionalPart (.subquery (← queryBehind deeper))
  else
    let list ← exprs deeper
    expect .rightParen
    match list with
    | [inner] => optionalPart (.nested inner)
    | _ => optionalPart (.other ("(" ++ exprList list ++ ")"))

/-! ## Names -/

/-- Reads the parts of a dotted name behind its first one. -/
def moreParts : Reader (List Ident) :=
  whileSome do if ← accept .period then return some (← identifier) else return none

/-- Reads on behind a word that starts a name: more of the name, then perhaps the arguments of a call. A
string behind a word with an underscore first is a string in the character set of that name. -/
def nameBehind (deeper : Grammar) (first : Ident) : Reader Expr := do
  let more ← moreParts
  if ← accept .leftParen then callBehind deeper (first :: more)
  else if !more.isEmpty then return .compound (first :: more)
  else if first.value.startsWith "_" then
    match ← peek? 0 with
    | some (.string .plain _) | some (.string .hex _) =>
      return .other (first.value ++ " " ++ (← constantText))
    | _ => return .ident first
  else return .ident first

/-- Words that call a function without parentheses. -/
def bareFunctions : List String :=
  ["CURRENT_CATALOG", "CURRENT_USER", "SESSION_USER", "USER"]

/-- Words that call a function with or without parentheses. -/
def momentFunctions : List String :=
  ["CURRENT_TIMESTAMP", "CURRENT_TIME", "CURRENT_DATE", "LOCALTIME", "LOCALTIMESTAMP"]

/-- Reads on behind a word that calls a function with or without parentheses. -/
def momentBehind (deeper : Grammar) (word : Ident) : Reader Expr := do
  if ← accept .leftParen then
    let list ← argumentList deeper
    return .call [word] list.args { duplicates := list.duplicates, inner := list.inner }
  else return .bareCall [word]

/-- Reads on behind a word that opens a form only before some tokens. -/
def contextualBehind (deeper : Grammar) (word : Ident) (keyword : String) : Reader Expr := do
  let next ← peek? 0
  if keyword = "POSITION" && next = some .leftParen then
    match ← attempt (positionBehind deeper) with
    | some text => return .other text
    | none => nameBehind deeper word
  else if keyword = "ARRAY" && next = some (.operator "[") then
    let _ ← next?
    arrayBehind "ARRAY" deeper
  else if keyword = "ARRAY" && next = some .leftParen then
    let _ ← next?
    return .queryCall [word] (← queryBehind deeper)
  else if keyword = "MAP" && next = some (.operator "\x7b") then
    let _ ← next?
    entriesBehind "MAP " (exprText deeper) (exprText deeper)
  else nameBehind deeper word

/-- Reads on behind a word. -/
def wordBehind (deeper : Grammar) (word : Ident) : Reader Expr := do
  let keyword := if word.quote.isNone then Text.uppercase word.value else ""
  if let some value := constantWord? keyword then return .constant value
  else if bareFunctions.contains keyword then return .bareCall [word]
  else if momentFunctions.contains keyword then momentBehind deeper word
  else if let some form := wordForms.lookup keyword then return .other (← form deeper)
  else if keyword = "NOT" then
    if ← acceptKeyword "EXISTS" then return .other ("NOT " ++ (← existsBehind deeper))
    else return .unary .not (← deeper.expr Level.not)
  else if keyword = "PRIOR" && deeper.inStep then
    return .other ("PRIOR " ++ (← deeper.expr Level.sum).text)
  else contextualBehind deeper word keyword

/-! ## Operands -/

/-- Reads a constant of a type that SQL itself names, such as `DATE '2020-01-01'`. -/
def typedString : Reader Expr := do
  let type ← balancedType
  if type.standard then return .other (type.text ++ " " ++ quoted '\'' (← literalString)) else refuse

/-- Reads an operand that is no typed string. -/
def untypedOperand (deeper : Grammar) : Reader Expr := do
  match ← peek? 0 with
  | some (.word value quote) =>
    let _ ← next?
    wordBehind deeper ⟨value, quote⟩
  | some (.operator "-") =>
    let _ ← next?
    return .unary .minus (← deeper.expr Level.product)
  | some (.operator "+") =>
    let _ ← next?
    return .unary .plus (← deeper.expr Level.product)
  | some .leftParen =>
    let _ ← next?
    parenBehind deeper
  | some (.operator "[") =>
    let _ ← next?
    arrayBehind "" deeper
  | some (.operator "\x7b") =>
    let _ ← next?
    entriesBehind "" identText (exprText deeper)
  | _ => return .constant (← constant)

/-- Reads an operand that is no span of time, with the name of an order of letters behind it. -/
def plainOperand (deeper : Grammar) : Reader Expr := do
  match ← attempt typedString with
  | some expr => return expr
  | none =>
    let expr ← untypedOperand deeper
    let collation ← optionalCollation
    return if collation.isEmpty then expr else .other (expr.text ++ collation)

/-- Reads an operand. The amount of a span of time is an operand itself. -/
def operand (deeper : Grammar) : Reader Expr := fun tokens =>
  match tokens with
  | .word value quote :: rest =>
    if (Token.word value quote).isKeyword "INTERVAL" then
      match operand deeper rest with
      | .ok (amount, rest) => (Expr.other <$> spanBehind amount.text) rest
      | .error fault => .error fault
    else plainOperand deeper (.word value quote :: rest)
  | tokens => plainOperand deeper tokens

end VideoPlan.Sql.Reader
