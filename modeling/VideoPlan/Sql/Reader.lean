import VideoPlan.Error
import VideoPlan.Number.Decimal
import VideoPlan.Sql.Constant

/-!
# Readers of tokens

A reader takes tokens from the front of a list and answers what they say and the tokens that follow, or
the fault that stopped it. What only refuses says so by `ParseFault.refused`; declarations of videos say
more.
-/

namespace VideoPlan.Sql

/-- Reads a value off the front of the tokens. -/
abbrev Reader (α : Type) := StateT (List Token) (Except ParseFault) α

namespace Reader

/-- The tokens are not what the grammar asks for. -/
def refuse : Reader α :=
  throw .refused

/-! ## Single tokens -/

/-- The token at a distance, without taking it. -/
def peek? (distance : Nat) : Reader (Option Token) := do
  return (← get)[distance]?

/-- Takes the next token, if there is one. -/
def next? : Reader (Option Token) := fun tokens =>
  match tokens with
  | [] => .ok (none, [])
  | token :: rest => .ok (some token, rest)

/-- Takes the next token if it is this one. -/
def accept (wanted : Token) : Reader Bool := fun tokens =>
  match tokens with
  | [] => .ok (false, [])
  | token :: rest => if token = wanted then .ok (true, rest) else .ok (false, token :: rest)

/-- Takes this token or refuses. -/
def expect (wanted : Token) : Reader Unit := do
  if ← accept wanted then return else refuse

/-- Takes the operator with this symbol if it comes next. -/
def acceptSymbol (symbol : String) : Reader Bool :=
  accept (.operator symbol)

/-- Takes the operator with this symbol or refuses. -/
def expectSymbol (symbol : String) : Reader Unit :=
  expect (.operator symbol)

/-! ## Words -/

/-- The tokens behind these words, if they come next without quotes. -/
def afterKeywords? : List String → List Token → Option (List Token)
  | [], tokens => some tokens
  | _ :: _, [] => none
  | name :: names, token :: rest =>
    if token.isKeyword name then afterKeywords? names rest else none

/-- Takes all of these words, or none. -/
def acceptKeywords (names : List String) : Reader Bool := fun tokens =>
  match afterKeywords? names tokens with
  | some rest => .ok (true, rest)
  | none => .ok (false, tokens)

/-- Takes the word if it comes next. -/
def acceptKeyword (name : String) : Reader Bool :=
  acceptKeywords [name]

/-- Takes the first of these words that comes next. -/
def acceptOneOf (names : List String) : Reader (Option String) := fun tokens =>
  match tokens with
  | [] => .ok (none, [])
  | token :: rest =>
    match names.find? token.isKeyword with
    | some name => .ok (some name, rest)
    | none => .ok (none, token :: rest)

/-- Takes the words or refuses. -/
def expectKeywords (names : List String) : Reader Unit := do
  if ← acceptKeywords names then return else refuse

/-- Takes the word or refuses. -/
def expectKeyword (name : String) : Reader Unit :=
  expectKeywords [name]

/-- Takes one of these words or refuses. -/
def expectOneOf (names : List String) : Reader String := do
  match ← acceptOneOf names with
  | some name => return name
  | none => refuse

/-- Whether the token at a distance is this word. -/
def peekKeyword (distance : Nat) (name : String) : Reader Bool := do
  match ← peek? distance with
  | some token => return token.isKeyword name
  | none => return false

/-- Takes all of these words, or none, and answers them with a blank behind them. -/
def openingWords (names : List String) : Reader String := do
  return if ← acceptKeywords names then " ".intercalate names ++ " " else ""

/-- Takes all of these words, or none, and answers them with a blank before them. -/
def closingWords (names : List String) : Reader String := do
  return if ← acceptKeywords names then " " ++ " ".intercalate names else ""

/-- Takes all the words of the first of these phrases that comes next, and answers them. -/
def acceptPhrase : List (List String) → Reader (Option String)
  | [] => return none
  | names :: phrases => do
    if ← acceptKeywords names then return some (" ".intercalate names) else acceptPhrase phrases

/-! ## Readers from readers -/

/-- Reads, or takes nothing if that fails. Nothing else is tried for what is nested too deeply. -/
def attempt (reader : Reader α) : Reader (Option α) := fun tokens =>
  match reader tokens with
  | .ok (x, rest) => .ok (some x, rest)
  | .error .tooDeep => .error .tooDeep
  | .error _ => .ok (none, tokens)

/-- Reads behind a word, if the word comes next. -/
def behindKeyword (name : String) (reader : Reader α) : Reader (Option α) := do
  if ← acceptKeyword name then return some (← reader) else return none

/-- Reads behind words, if they come next; answers the words and what was read. -/
def clause (names : List String) (reader : Reader String) : Reader (Option String) := do
  if ← acceptKeywords names then return some (" ".intercalate names ++ " " ++ (← reader))
  else return none

/-- The same behind a blank; nothing if the words do not come next. -/
def clauseBehind (names : List String) (reader : Reader String) : Reader String := do
  return clauseText "" (← clause names reader)

/-- Reads between parentheses. -/
def inParens (reader : Reader α) : Reader α := do
  expect .leftParen
  let x ← reader
  expect .rightParen
  return x

/-- Reads one or more items with a separator between them. An item takes at least one token. -/
def separatedBy (separator : Token) (item : Reader α) : Reader (List α) := fun tokens =>
  match item tokens with
  | .error fault => .error fault
  | .ok (x, []) => .ok ([x], [])
  | .ok (x, token :: rest) =>
    if token = separator then
      if _h : rest.length < tokens.length then
        match separatedBy separator item rest with
        | .error fault => .error fault
        | .ok (xs, rest) => .ok (x :: xs, rest)
      else .error .refused
    else .ok ([x], token :: rest)
termination_by tokens => tokens.length

/-- Reads one or more items with commas between them. -/
def commaSeparated (item : Reader α) : Reader (List α) :=
  separatedBy .comma item

/-- Reads items with commas between them; none if the closing token comes next, which stays. -/
def commaSeparatedUpTo (closing : Token) (item : Reader α) : Reader (List α) := do
  if (← peek? 0) = some closing then return [] else commaSeparated item

/-- Reads one or more texts with commas between them, as one text. -/
def commaTexts (item : Reader String) : Reader String := do
  return commaList (← commaSeparated item)

/-- Reads one or more texts with commas between them in parentheses, as one text with parentheses. -/
def parenTexts (item : Reader String) : Reader String := do
  return "(" ++ (← inParens (commaTexts item)) ++ ")"

/-- Reads items until one is missing. An item takes at least one token. -/
def whileSome (item : Reader (Option α)) : Reader (List α) := fun tokens =>
  match item tokens with
  | .error fault => .error fault
  | .ok (none, rest) => .ok ([], rest)
  | .ok (some x, rest) =>
    if _h : rest.length < tokens.length then
      match whileSome item rest with
      | .error fault => .error fault
      | .ok (xs, rest) => .ok (x :: xs, rest)
    else .error .refused
termination_by tokens => tokens.length

/-! ## Names and constants -/

/-- Reads a name: any word, or a text in single quotes. -/
def identifier : Reader Ident := do
  match ← next? with
  | some (.word value quote) => return ⟨value, quote⟩
  | some (.string .plain value) => return ⟨value, some '\''⟩
  | _ => refuse

/-- Reads a name as its text. -/
def identText : Reader String := do
  return (← identifier).text

/-- Reads a name with its qualifiers. -/
def objectName : Reader ObjectName :=
  separatedBy .period identifier

/-- Reads a name with its qualifiers as its text. -/
def objectText : Reader String := do
  return dotted (← objectName)

/-- Reads a string: one in quotes, or a word that is not reserved. -/
def literalString : Reader String := do
  match ← next? with
  | some (.string .plain value) => return value
  | some (.string .escaped value) => return value
  | some (.string .unicode value) => return value
  | some (.word value quote) =>
    if (Token.word value quote).isReserved then refuse else return value
  | _ => refuse

/-- Reads a string in single quotes. -/
def plainString : Reader String := do
  match ← next? with
  | some (.string .plain value) => return value
  | _ => refuse

/-- Reads a whole number of at most 64 bits, in its shortest form. -/
def wholeNumber : Reader String := do
  match ← next? with
  | some (.number digits _) =>
    match (Number.readNat? digits.toList).filter (· < UInt64.size) with
    | some n => return toString n
    | none => refuse
  | _ => refuse

/-- Reads a whole number of at most 32 bits, in its shortest form. -/
def smallNumber : Reader String := do
  let number ← wholeNumber
  match number.toNat? with
  | some n => if n < UInt32.size then return number else refuse
  | none => refuse

/-- Reads the name of a place for a value behind the sign that opens it. -/
def placeholderBehind (sign : String) : Reader Value := do
  match ← next? with
  | some (.word value _) => return .placeholder (sign ++ value)
  | some (.number digits false) => return .placeholder (sign ++ digits)
  | _ => refuse

/-- The constant that a word without quotes stands for. -/
def constantWord? (keyword : String) : Option Value :=
  match keyword with
  | "TRUE" => some (.boolean true)
  | "FALSE" => some (.boolean false)
  | "NULL" => some .null
  | _ => none

/-- Reads a constant. -/
def constant : Reader Value := do
  match ← next? with
  | some (.number digits long) => return .number digits long
  | some (.string style value) => return .string style value
  | some (.placeholder name) => return .placeholder name
  | some (.operator ":") => placeholderBehind ":"
  | some (.operator "@") => placeholderBehind "@"
  | some (.word value (some '"')) => return .doubleQuoted value
  | some (.word value none) =>
    match constantWord? (Text.uppercase value) with
    | some value => return value
    | none => refuse
  | _ => refuse

/-- Reads a constant as its text. -/
def constantText : Reader String := do
  return (← constant).text

/-- Reads names in parentheses. -/
def identifiersInParens : Reader (List Ident) :=
  inParens (commaSeparated identifier)

/-- Reads names in parentheses, if a parenthesis comes next. -/
def optionalIdentifiers : Reader (List Ident) := do
  if (← peek? 0) = some .leftParen then identifiersInParens else return []

/-- Reads another name for what stands before: any name behind `AS`, otherwise none of the `reserved`
words. -/
def optionalAlias (reserved : List String) : Reader (Option Ident) := do
  let afterAs ← acceptKeyword "AS"
  match ← peek? 0 with
  | some (.word value quote) =>
    if afterAs || !reserved.any (Token.word value quote).isKeyword then
      let _ ← next?
      return some ⟨value, quote⟩
    else return none
  | some (.string .plain value) =>
    let _ ← next?
    return some ⟨value, some '\''⟩
  | _ => if afterAs then refuse else return none

/-- Reads another name for a table, perhaps with names for its columns. -/
def optionalTableAlias : Reader (Option String) := do
  match ← optionalAlias notTableAliases with
  | some label => return some (label.text ++ columnsText (← optionalIdentifiers))
  | none => return none

end Reader

end VideoPlan.Sql
