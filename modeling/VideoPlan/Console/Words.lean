import VideoPlan.Text.Casing

/-!
# Words that the console knows

The words of statements and of element types that the console offers and colours, and its commands.
-/

namespace VideoPlan.Console

/-- The words of statements, in the order in which they are offered. -/
def keywords : List String :=
  ["SELECT", "FROM", "WHERE", "AS", "AND", "OR", "NOT", "IN", "BETWEEN", "LIKE", "IS", "NULL", "TRUE",
    "FALSE", "INSERT", "INTO", "VALUES", "LOAD", "DATA", "INFILE", "CREATE", "TABLE", "UDF", "IF", "EXISTS",
    "INPUT", "OUTPUT", "TYPE", "IMPL", "BOOLEAN", "INTEGER", "FLOAT", "TEXT", "NDARRAY", "ANYDIM"]

/-- The names of element types, in the order in which they are offered. -/
def elementTypes : List String :=
  ["INT8", "UINT8", "INT16", "INT32", "INT64", "FLOAT32", "FLOAT64", "UNICODE", "STR", "BOOL", "DECIMAL"]

/-- The commands of the console. -/
def commands : List String :=
  ["\\q", "\\d", "\\h"]

/-- Whether the word is one of the names, in any case. -/
def isAmong (names : List String) (word : String) : Bool :=
  names.any (Text.sameIgnoringAsciiCase · word)

/-- The columns of the tables that the console knows, under the names of the tables in lower case. -/
abbrev Tables := List (String × List String)

/-- The tables with another one, which replaces one of the same name. -/
def Tables.register (tables : Tables) (name : String) (columns : List String) : Tables :=
  (Text.lowercase name, columns) :: tables.filter (·.1 != Text.lowercase name)

/-- Whether a table has this name, in any case. -/
def Tables.knows (tables : Tables) (name : String) : Bool :=
  (tables.lookup (Text.lowercase name)).isSome

/-- The names of the tables in lower case, sorted. -/
def Tables.names (tables : Tables) : List String :=
  (tables.map (·.1)).mergeSort (· ≤ ·)

end VideoPlan.Console
