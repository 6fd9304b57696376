import VideoPlan.Number.Decimal
import VideoPlan.Sql.Reader
import VideoPlan.Statement

/-!
# Reading declarations

The statements on videos that plain SQL does not have, read straight off the tokens:

```
CREATE TABLE [IF NOT EXISTS] name (column type, …)
CREATE UDF [IF NOT EXISTS] name INPUT (column type, …) OUTPUT (column type, …) [TYPE name] IMPL 'path'
LOAD DATA INFILE 'path' INTO [TABLE] name
```

The words that shape a declaration count in any case and also in quotes.
-/

namespace VideoPlan

open Sql (Token Reader)
open Sql.Reader

namespace Declaration

/-! ## Words -/

/-- The word that a token is, in upper case and without its quotes. -/
def word? : Token → Option String
  | .word value _ => some (Text.asciiUppercase value)
  | _ => none

/-- Takes the word if it comes next. -/
def acceptWord (name : String) : Reader Bool := fun tokens =>
  match tokens with
  | [] => .ok (false, [])
  | token :: rest => if word? token = some name then .ok (true, rest) else .ok (false, token :: rest)

/-- The fault that something else than `wanted` comes next. -/
def unexpectedNext (wanted : String) : Reader α := do
  throw (.unexpected wanted (Sql.shownNext (← get)))

/-- Takes the word or fails. -/
def expectWord (name : String) : Reader Unit := do
  if ← acceptWord name then return else unexpectedNext name

/-- Reads a name without qualifiers. -/
def name : Reader String := do
  match ← get with
  | .word value _ :: rest =>
    set rest
    return value
  | _ => unexpectedNext "identifier"

/-- Reads a table. -/
def table : Reader TableRef := do
  return .ofName (← objectName)

/-- Reads `IF NOT EXISTS`, if it comes next. -/
def ifNotExists : Reader Bool :=
  acceptKeywords ["IF", "NOT", "EXISTS"]

/-! ## Types of columns -/

/-- Skips numbers and commas up to the closing parenthesis. -/
def skipModifiers : Reader Unit := fun tokens =>
  match tokens with
  | .rightParen :: rest => .ok ((), rest)
  | .number _ _ :: rest => skipModifiers rest
  | .comma :: rest => skipModifiers rest
  | tokens => .error (.unexpected "type modifier" (Sql.shownNext tokens))

/-- Skips numbers in parentheses, if a parenthesis comes next. -/
def optionalModifiers : Reader Unit := do
  if ← accept .leftParen then skipModifiers

/-- The size of a dimension that digits write, which takes 64 bits at most. -/
def size? (digits : String) : Option Nat :=
  (Number.readNat? digits.toList).filter (· < UInt64.size)

/-- Reads a dimension. -/
def dimension : Reader (Option Nat) := do
  match ← get with
  | .number digits _ :: rest =>
    set rest
    match size? digits with
    | some size => return some size
    | none => throw (.invalidDimension digits)
  | token :: rest =>
    if word? token = some "ANYDIM" then
      set rest
      return none
    else unexpectedNext "array dimension"
  | [] => unexpectedNext "array dimension"

/-- Reads dimensions in parentheses, if a parenthesis comes next. -/
def optionalDimensions : Reader (List (Option Nat)) := do
  if (← peek? 0) = some .leftParen then inParens (commaSeparated dimension) else return []

/-- Reads the type of an array behind its first word. -/
def arrayType : Reader DataType := do
  let element ← name
  match ElementType.ofName? element with
  | some element =>
    return { base := .ndArray, element := some element, dimensions := ← optionalDimensions }
  | none => throw (.unknownElementType element)

/-- Reads the type of a column. -/
def columnType : Reader DataType := do
  match Text.asciiUppercase (← name) with
  | "BOOLEAN" | "BOOL" => return { base := .boolean }
  | "INTEGER" | "INT" | "BIGINT" | "SMALLINT" => return { base := .integer }
  | "FLOAT" | "REAL" | "DOUBLE" =>
    optionalModifiers
    return { base := .float }
  | "TEXT" | "VARCHAR" | "CHAR" =>
    optionalModifiers
    return { base := .text }
  | "NDARRAY" => arrayType
  | unknown => throw (.unknownColumnType unknown)

/-! ## Columns -/

/-- Reads whether a column may be null; it may if nothing is said. -/
def nullability : Reader Bool := do
  if ← acceptKeywords ["NOT", "NULL"] then return false
  else
    let _ ← acceptKeyword "NULL"
    return true

/-- Reads the definition of a column. -/
def column : Reader ColumnDefinition := do
  let name ← name
  let type ← columnType
  return { name, type, nullable := ← nullability }

/-- Reads the definitions of columns in parentheses. -/
def columns : Reader (List ColumnDefinition) :=
  inParens (commaSeparated column)

/-! ## Statements -/

/-- Reads CREATE TABLE behind these words. -/
def tableBehind : Reader TableDeclaration := do
  let ifNotExists ← ifNotExists
  let table ← table
  return { table, ifNotExists, columns := ← columns }

/-- Reads CREATE UDF behind these words. -/
def udfBehind : Reader UdfDeclaration := do
  let ifNotExists ← ifNotExists
  let name ← name
  expectWord "INPUT"
  let inputs ← columns
  expectWord "OUTPUT"
  let outputs ← columns
  let udfType ← do
    if ← acceptWord "TYPE" then pure (some (← Declaration.name)) else pure none
  expectWord "IMPL"
  return { name, ifNotExists, inputs, outputs, udfType, implementation := ← literalString }

/-- Reads LOAD DATA behind these words. -/
def loadBehind : Reader LoadStatement := do
  expectWord "INFILE"
  let path ← literalString
  expectWord "INTO"
  let _ ← acceptWord "TABLE"
  return { table := ← table, path }

/-- The reader of the declaration that two words open. -/
def behind? : Option String → Option String → Option (Reader Statement)
  | some "CREATE", some "TABLE" => some (Statement.createTable <$> tableBehind)
  | some "CREATE", some "UDF" => some (Statement.createUdf <$> udfBehind)
  | some "LOAD", some "DATA" => some (Statement.loadData <$> loadBehind)
  | _, _ => none

/-- The reader of the declaration that the tokens start with, and the tokens that it reads. -/
def opening? : List Token → Option (Reader Statement × List Token)
  | first :: second :: rest => (behind? (word? first) (word? second)).map (·, rest)
  | _ => none

end Declaration

end VideoPlan
