import VideoPlan.Catalog.Column

/-!
# Names in SQL

A name is a word, in quotes or not; a table or a function may have qualifiers before its name, with points
between them.
-/

namespace VideoPlan.Sql

/-- A name, with its quote character if it is quoted. -/
structure Ident where
  value : String
  quote : Option Char := none
deriving DecidableEq

/-- The text with each quote doubled. Quotes that are doubled already, or that follow a backslash, stay as
they are. -/
def doubleQuotes (quote previous : Char) : List Char → List Char
  | [] => []
  | [c] => if c = quote && previous != '\\' then [c, c] else [c]
  | c :: d :: rest =>
    if c != quote then c :: doubleQuotes quote c (d :: rest)
    else if previous = '\\' then c :: doubleQuotes quote previous (d :: rest)
    else if d = quote then c :: c :: doubleQuotes quote c rest
    else c :: c :: doubleQuotes quote c (d :: rest)

/-- The text between quotes. -/
def quoted (quote : Char) (s : String) : String :=
  String.ofList (quote :: doubleQuotes quote '\x00' s.toList ++ [quote])

/-- A name as it is written; a square bracket is closed by its counterpart. -/
def Ident.text (name : Ident) : String :=
  match name.quote with
  | some '[' => "[" ++ name.value ++ "]"
  | some quote => quoted quote name.value
  | none => name.value

/-- The name of a table or function, with its qualifiers before it. -/
abbrev ObjectName := List Ident

/-- The parts with points between them. -/
def dotted (parts : List Ident) : String :=
  ".".intercalate (parts.map Ident.text)

/-- Names with commas between them. -/
def identList (names : List Ident) : String :=
  commaList (names.map Ident.text)

/-- Names in parentheses behind a blank; nothing if there are none. -/
def columnsText (names : List Ident) : String :=
  if names.isEmpty then "" else " (" ++ identList names ++ ")"

/-- A clause, if it is there, behind a blank and the word that opens it. -/
def clauseText (opening : String) : Option String → String
  | some text => " " ++ opening ++ text
  | none => ""

end VideoPlan.Sql
