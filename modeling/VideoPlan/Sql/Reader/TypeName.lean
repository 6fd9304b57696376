import VideoPlan.Sql.Reader

/-!
# Names of types in SQL

The types that casts and column declarations of plain SQL may name. They have no meaning in a plan and are
read as their text. A word that names no type of SQL names a type of its own. Types inside a type are read
with one unit less of fuel, which no type can use up because each takes a token.
-/

namespace VideoPlan.Sql.Reader

/-- A type as it was read. -/
structure TypeName where
  text : String
  /-- Whether SQL itself names the type. -/
  standard : Bool := true
  /-- Whether its last bracket, `>>`, ends a type around it as well. -/
  endsOuter : Bool := false

/-- Types without parameters, as they are written. -/
def plainTypes : List (String × String) :=
  [("BOOLEAN", "BOOLEAN"), ("BOOL", "BOOL"), ("REAL", "REAL"), ("FLOAT4", "FLOAT4"), ("FLOAT8", "FLOAT8"),
    ("FLOAT32", "Float32"), ("FLOAT64", "FLOAT64"), ("INT16", "Int16"), ("INT32", "Int32"),
    ("INT64", "INT64"), ("INT128", "Int128"), ("INT256", "Int256"), ("UINT8", "UInt8"),
    ("UINT16", "UInt16"), ("UINT32", "UInt32"), ("UINT64", "UInt64"), ("UINT128", "UInt128"),
    ("UINT256", "UInt256"), ("UUID", "UUID"), ("DATE", "DATE"), ("DATE32", "Date32"),
    ("INTERVAL", "INTERVAL"), ("JSON", "JSON"), ("JSONB", "JSONB"), ("REGCLASS", "REGCLASS"),
    ("TEXT", "TEXT"), ("BYTEA", "BYTEA"), ("TRIGGER", "TRIGGER")]

/-- Types with an optional length. -/
def sizedTypes : List String :=
  ["FLOAT", "CLOB", "BINARY", "VARBINARY", "BLOB", "BYTES", "STRING", "DATETIME"]

/-- Integer types with an optional width. -/
def integerTypes : List String :=
  ["TINYINT", "INT2", "SMALLINT", "MEDIUMINT", "INT", "INT4", "INT8", "INTEGER", "BIGINT"]

/-- Types with an optional precision and scale. -/
def exactTypes : List String :=
  ["NUMERIC", "DECIMAL", "DEC", "BIGNUMERIC", "BIGDECIMAL"]

/-! ## Parameters -/

/-- Reads a length in parentheses, if a parenthesis comes next. -/
def optionalSize : Reader String := do
  if (← peek? 0) = some .leftParen then return "(" ++ (← inParens wholeNumber) ++ ")" else return ""

/-- Reads a precision and perhaps a scale in parentheses, if a parenthesis comes next. -/
def optionalScale : Reader String := do
  let sizes : Reader String := do
    let precision ← wholeNumber
    if ← accept .comma then return precision ++ "," ++ (← wholeNumber) else return precision
  if (← peek? 0) = some .leftParen then return "(" ++ (← inParens sizes) ++ ")" else return ""

/-- Reads the length of a text in parentheses, if a parenthesis comes next. -/
def optionalLength : Reader String := do
  let length : Reader String := do
    if ← acceptKeyword "MAX" then return "MAX"
    else
      let size ← wholeNumber
      return size ++ clauseText "" (← acceptOneOf ["CHARACTERS", "OCTETS"])
  if (← peek? 0) = some .leftParen then return "(" ++ (← inParens length) ++ ")" else return ""

/-- Reads the time zone behind the type of a moment. -/
def optionalTimeZone : Reader String := do
  match ← acceptOneOf ["WITH", "WITHOUT"] with
  | some word =>
    expectKeywords ["TIME", "ZONE"]
    return " " ++ word ++ " TIME ZONE"
  | none => return ""

/-- Reads strings in quotes, in parentheses. -/
def stringList : Reader String :=
  parenTexts (quoted '\'' <$> plainString)

/-! ## Types -/

/-- Reads a type of characters behind its first word. -/
def charactersBehind (word : String) : Reader String := do
  if ← acceptKeyword "VARYING" then return word ++ " VARYING" ++ (← optionalLength)
  else if ← acceptKeywords ["LARGE", "OBJECT"] then return word ++ " LARGE OBJECT" ++ (← optionalSize)
  else return word ++ (← optionalLength)

/-- Reads a moment of a kind of clock behind its first words. -/
def dateTimeBehind : Reader String :=
  inParens do
    let precision ← wholeNumber
    if ← accept .comma then return "DateTime64(" ++ precision ++ ", '" ++ (← literalString) ++ "')"
    else return "DateTime64(" ++ precision ++ ")"

/-- Reads the rest of a type that is one word with parameters but without types in it; nothing if the word
names no such type. -/
def simpleBehind? (word : String) : Option (Reader String) :=
  if let some text := plainTypes.lookup word then some (return text)
  else if sizedTypes.contains word then some do return word ++ (← optionalSize)
  else if integerTypes.contains word then
    some do return word ++ (← optionalSize) ++ (← closingWords ["UNSIGNED"])
  else if exactTypes.contains word then some do return word ++ (← optionalScale)
  else match word with
    | "VARCHAR" | "NVARCHAR" => some do return word ++ (← optionalLength)
    | "CHAR" | "CHARACTER" => some (charactersBehind word)
    | "DOUBLE" => some do return word ++ (← closingWords ["PRECISION"])
    | "TIMESTAMP" | "TIME" => some do return word ++ (← optionalSize) ++ (← optionalTimeZone)
    | "TIMESTAMPTZ" | "TIMETZ" => some do return word ++ (← optionalSize)
    | "ENUM" | "SET" => some do return word ++ (← stringList)
    | "FIXEDSTRING" => some do return "FixedString(" ++ (← inParens wholeNumber) ++ ")"
    | "DATETIME64" => some dateTimeBehind
    | _ => none

/-- Reads a type with types in parentheses behind its word. -/
def wrapped (shown : String) (part : Reader String) : Reader TypeName := do
  return { text := shown ++ (← parenTexts part) }

/-- Reads the bracket that ends a type, unless the type inside has ended it already. The answer tells
whether the bracket ends a type around it as well. -/
def closingBracket (ended : Bool) : Reader Bool := do
  if ended then return false
  else if ← acceptSymbol ">" then return false
  else
    expectSymbol ">>"
    return true

/-- Reads a type that is not ended by the bracket of a type around it. -/
def balanced (type : Reader TypeName) : Reader TypeName := do
  let name ← type
  if name.endsOuter then refuse else return name

/-- Reads a field of a structure: its name, if two words come next, and its type. -/
def structureField (type : Reader TypeName) : Reader TypeName := do
  match ← peek? 0, ← peek? 1 with
  | some (.word _ _), some (.word _ _) =>
    let name ← identText
    let type ← type
    return { type with text := name ++ " " ++ type.text }
  | _, _ => type

/-- Reads the fields of a structure behind its opening bracket, each as its text. Only the last one may end
what is around it. -/
def structureFields (field : Reader TypeName) : Reader (List String × Bool) := do
  let fields ← commaSeparated field
  if fields.dropLast.any (·.endsOuter) then refuse
  else return (fields.map (·.text), ← closingBracket (fields.any (·.endsOuter)))

/-- Reads the fields of a structure in angle brackets, if one comes next. -/
def optionalFields (type : Reader TypeName) : Reader (List String × Bool) := do
  if ← acceptSymbol "<" then structureFields (structureField type) else return ([], false)

/-- A structure with the fields of its type. -/
def structureText (fields : List String) : String :=
  if fields.isEmpty then "STRUCT" else "STRUCT<" ++ commaList fields ++ ">"

/-- The words of types that have types in them. -/
def nestedTypes : List String :=
  ["ARRAY", "STRUCT", "UNION", "NESTED", "TUPLE", "NULLABLE", "LOWCARDINALITY", "MAP"]

/-- Reads the rest of a type that has types in it; nothing if the word names no such type. -/
def nestedBehind? (type : Reader TypeName) (word : String) : Option (Reader TypeName) :=
  let inner : Reader String := do return (← balanced type).text
  match word with
  | "ARRAY" => some do
    expectSymbol "<"
    let element ← type
    return { text := "ARRAY<" ++ element.text ++ ">", endsOuter := ← closingBracket element.endsOuter }
  | "STRUCT" => some do
    let (fields, endsOuter) ← optionalFields type
    return { text := structureText fields, endsOuter }
  | "UNION" => some (wrapped "UNION" do return (← identText) ++ " " ++ (← inner))
  | "NESTED" => some (wrapped "Nested" do return (← identText) ++ " " ++ (← inner))
  | "TUPLE" => some (wrapped "Tuple" do return (← structureField type).text)
  | "NULLABLE" => some do return { text := "Nullable(" ++ (← inParens inner) ++ ")" }
  | "LOWCARDINALITY" => some do return { text := "LowCardinality(" ++ (← inParens inner) ++ ")" }
  | "MAP" => some do
    let (key, value) ← inParens do
      let key ← inner
      expect .comma
      return (key, ← inner)
    return { text := "Map(" ++ key ++ ", " ++ value ++ ")" }
  | _ => none

/-- Reads parameters of a type that SQL does not name up to the closing parenthesis; commas between them may
be missing. -/
def typeParameters : Reader (List String) := fun tokens =>
  match tokens with
  | .rightParen :: rest => .ok ([], rest)
  | .comma :: rest => typeParameters rest
  | .word value quote :: rest => more (Token.word value quote).shown (typeParameters rest)
  | .number digits _ :: rest => more digits (typeParameters rest)
  | .string .plain value :: rest => more value (typeParameters rest)
  | _ => .error .refused
where
  /-- A parameter before others. -/
  more (parameter : String) : Except ParseFault (List String × List Token) →
      Except ParseFault (List String × List Token)
    | .ok (parameters, rest) => .ok (parameter :: parameters, rest)
    | .error fault => .error fault

/-- Reads a type that SQL does not name. -/
def customType : Reader TypeName := do
  let name ← objectText
  let parameters ← if ← accept .leftParen then typeParameters else pure []
  let text := if parameters.isEmpty then name else name ++ "(" ++ commaList parameters ++ ")"
  return { text, standard := false }

/-- Reads the square brackets of an array, if they come next. -/
def optionalBrackets : Reader (Option String) := do
  if ← acceptSymbol "[" then
    let size := (← attempt wholeNumber).getD ""
    expectSymbol "]"
    return some ("[" ++ size ++ "]")
  else return none

/-- Reads a type with `fuel` units left for the types in it. -/
def typeWithin : Nat → Reader TypeName
  | 0 => refuse
  | fuel + 1 => do
    let word ← match ← peek? 0 with
      | some (.word value none) => pure (Text.uppercase value)
      | some (.word _ _) => pure ""
      | _ => refuse
    let type ←
      if let some simple := simpleBehind? word then do
        let _ ← next?
        pure { text := ← simple }
      else if let some nested := nestedBehind? (typeWithin fuel) word then do
        let _ ← next?
        nested
      else customType
    match ← whileSome optionalBrackets with
    | [] => return type
    | brackets => return { type with text := type.text ++ String.join brackets, standard := true }

/-- Reads a type, perhaps with a bracket that ends a type around it. Only types with types in them need
fuel. -/
def anyType : Reader TypeName := do
  let tokens ← get
  if nestedTypes.any fun name => (tokens.head?.map (·.isKeyword name)).getD false then
    typeWithin (tokens.length + 1)
  else typeWithin 1

/-- Reads a type that no bracket too many ends. -/
def balancedType : Reader TypeName :=
  balanced anyType

/-- Reads a type as its text. -/
def typeName : Reader String := do
  return (← balancedType).text

end VideoPlan.Sql.Reader
