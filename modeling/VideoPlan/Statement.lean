import VideoPlan.Catalog.Column
import VideoPlan.Sql.Query

/-!
# Statements

The statements that can be planned, with all that their plans need: names as they are written, and
expressions that are not resolved yet. Any other statement is kept as its text.
-/

namespace VideoPlan

/-- A table by its name, perhaps with the schema and the database it lies in. -/
structure TableRef where
  table : String
  schema : Option String := none
  database : Option String := none
deriving DecidableEq

namespace TableRef

/-- The table that a name means: its last three parts are database, schema and table. -/
def ofName (name : Sql.ObjectName) : TableRef :=
  match (name.map Sql.Ident.value).reverse with
  | [] => { table := "" }
  | [table] => { table }
  | [table, schema] => { table, schema := some schema }
  | table :: schema :: database :: _ => { table, schema := some schema, database := some database }

/-- A table with what it lies in, without quotes. -/
def text (ref : TableRef) : String :=
  ".".intercalate (ref.database.toList ++ ref.schema.toList ++ [ref.table])

end TableRef

/-- A query over at most one table. -/
structure SelectStatement where
  table : Option TableRef := none
  items : List Sql.SelectItem := []
  filter : Option Sql.Expr := none

/-- The declaration of a user-defined function. -/
structure UdfDeclaration where
  name : String
  ifNotExists : Bool := false
  inputs : List ColumnDefinition := []
  outputs : List ColumnDefinition := []
  /-- The path of the file that implements the function. -/
  implementation : String
  /-- What the function is for, such as the detection of objects. -/
  udfType : Option String := none
deriving DecidableEq

/-- An insertion of rows of values; without columns, all columns of the table are meant. -/
structure InsertStatement where
  table : TableRef
  columns : List String := []
  rows : List (List Sql.Expr) := []

/-- The declaration of a table. -/
structure TableDeclaration where
  table : TableRef
  ifNotExists : Bool := false
  columns : List ColumnDefinition := []
deriving DecidableEq

/-- The loading of a file into a table. -/
structure LoadStatement where
  table : TableRef
  path : String
deriving DecidableEq

/-- A statement. -/
inductive Statement
  | select (statement : SelectStatement)
  | createUdf (declaration : UdfDeclaration)
  | insert (statement : InsertStatement)
  | createTable (declaration : TableDeclaration)
  | loadData (statement : LoadStatement)
  /-- A statement of SQL that has no plan. -/
  | unsupported (sql : String)

/-- The words that name the kind of a statement. -/
def Statement.kind : Statement → String
  | .select _ => "SELECT"
  | .createUdf _ => "CREATE UDF"
  | .insert _ => "INSERT"
  | .createTable _ => "CREATE TABLE"
  | .loadData _ => "LOAD DATA"
  | .unsupported _ => "UNSUPPORTED"

end VideoPlan
