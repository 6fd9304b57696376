import VideoPlan.Sql.Expr

/-!
# Queries and statements of SQL

What the grammar of SQL delivers: queries and insertions with all their clauses, and any other statement
as its text. Clauses that have no plan are kept as text, so that nothing that was written is lost before
it is decided whether it may be ignored.
-/

namespace VideoPlan.Sql

/-- Texts, each behind a blank. -/
def clauseTexts (clauses : List String) : String :=
  String.join (clauses.map (" " ++ ·))

/-- Another name for what stands before. -/
def labelText : Option String → String
  | some label => " AS " ++ label
  | none => ""

/-! ## Tables -/

/-- What a query reads from. -/
inductive TableFactor
  /-- A table by its name, perhaps with arguments behind its name and hints behind the other name. -/
  | table (name : ObjectName) (args : String) (label : Option String) (hints : String)
  /-- Tables and their joins in parentheses. -/
  | join (tables : String) (label : Option String)
  /-- Any other source of rows, such as a query in parentheses, and what stands behind its other name. -/
  | other (source : String) (label : Option String) (rest : String)

namespace TableFactor

/-- What a query reads from in normal form. -/
def text : TableFactor → String
  | .table name args label hints => dotted name ++ args ++ labelText label ++ hints
  | .join tables label => "(" ++ tables ++ ")" ++ labelText label
  | .other source label rest => source ++ labelText label ++ rest

/-- The other name given to what a query reads from. -/
def label? : TableFactor → Option String
  | .table _ _ label _ => label
  | .join _ label => label
  | .other _ label _ => label

/-- The same under another name. -/
def named (label : String) : TableFactor → TableFactor
  | .table name args _ hints => .table name args (some label) hints
  | .join tables _ => .join tables (some label)
  | .other source _ rest => .other source (some label) rest

/-- The rows that a clause behind makes of the rows, with the other name given to them. -/
def turned (factor : TableFactor) (turn : String × Option String) : TableFactor :=
  .other (factor.text ++ " " ++ turn.1) turn.2 ""

end TableFactor

/-- A table with the joins behind it, as their texts. -/
structure TableWithJoins where
  factor : TableFactor
  joins : List String := []

/-- A table with its joins in normal form. -/
def TableWithJoins.text (table : TableWithJoins) : String :=
  table.factor.text ++ clauseTexts table.joins

/-! ## Queries -/

/-- A SELECT without the clauses that may follow any query. -/
structure Select where
  /-- `DISTINCT`, perhaps with `ON (…)`. -/
  distinct : Option String := none
  /-- How many rows to keep, behind the word `TOP`. -/
  top : Option String := none
  items : List SelectItem
  /-- Where the rows go instead of into the answer. -/
  into : Option String := none
  tables : List TableWithJoins := []
  /-- The clauses between the tables and the filter. -/
  early : List String := []
  filter : Option Expr := none
  /-- The clauses that bring rows together, such as GROUP BY. -/
  grouping : List String := []
  having : Option Expr := none
  /-- The clauses behind all these, such as QUALIFY. -/
  late : List String := []

/-- A SELECT in normal form. -/
def Select.text (select : Select) : String :=
  "SELECT" ++ clauseText "" select.distinct ++ clauseText "TOP " select.top ++ " " ++
    commaList (select.items.map SelectItem.text) ++ clauseText "INTO " select.into ++
    (if select.tables.isEmpty then ""
      else " FROM " ++ commaList (select.tables.map TableWithJoins.text)) ++
    clauseTexts select.early ++
    clauseText "WHERE " (select.filter.map Expr.text) ++
    clauseTexts select.grouping ++
    clauseText "HAVING " (select.having.map Expr.text) ++
    clauseTexts select.late

/-- The clauses around the body of a query. -/
structure QueryClauses where
  /-- The named queries before the body. -/
  ctes : Option String := none
  orderBy : Option String := none
  limit : Option Expr := none
  offset : Option String := none
  /-- The clauses behind these, such as FETCH and locks. -/
  others : List String := []

/-- The body of a query between its clauses. -/
def QueryClauses.around (clauses : QueryClauses) (body : String) : String :=
  (match clauses.ctes with
    | some ctes => ctes ++ " "
    | none => "") ++ body ++
    clauseText "" clauses.orderBy ++
    clauseText "LIMIT " (clauses.limit.map Expr.text) ++
    clauseText "" clauses.offset ++
    clauseTexts clauses.others

/-- A query: the clauses around it and its body. -/
inductive Query
  | select (clauses : QueryClauses) (body : Select)
  /-- A query in parentheses. -/
  | nested (clauses : QueryClauses) (inner : Query)
  /-- Rows of values, perhaps each behind the word `ROW`. -/
  | values (clauses : QueryClauses) (explicitRow : Bool) (rows : List (List Expr))
  /-- Any other body, such as a union, as its text. -/
  | other (clauses : QueryClauses) (body : String)

/-- The query with these clauses around its body. -/
def Query.withClauses (clauses : QueryClauses) : Query → Query
  | .select _ body => .select clauses body
  | .nested _ inner => .nested clauses inner
  | .values _ explicitRow rows => .values clauses explicitRow rows
  | .other _ body => .other clauses body

/-- Rows of values in normal form. -/
def valuesText (explicitRow : Bool) (rows : List (List Expr)) : String :=
  let row := if explicitRow then "ROW" else ""
  "VALUES " ++ commaList (rows.map fun exprs => row ++ "(" ++ exprList exprs ++ ")")

/-- A query in normal form. -/
def Query.text : Query → String
  | .select clauses body => clauses.around body.text
  | .nested clauses inner => clauses.around ("(" ++ inner.text ++ ")")
  | .values clauses explicitRow rows => clauses.around (valuesText explicitRow rows)
  | .other clauses body => clauses.around body

/-! ## Statements -/

/-- An insertion. -/
structure Insert where
  /-- The words before the name of the table. -/
  opening : String := "INSERT INTO"
  table : ObjectName
  columns : List Ident := []
  /-- The part of the table that the rows go to. -/
  partition : Option String := none
  /-- Where the rows come from; nothing for `DEFAULT VALUES`. -/
  source : Option Query := none
  /-- The clauses behind the rows, as their texts. -/
  clauses : List String := []

/-- An insertion in normal form. -/
def Insert.text (insert : Insert) : String :=
  insert.opening ++ " " ++ dotted insert.table ++ columnsText insert.columns ++
    clauseText "PARTITION " insert.partition ++ " " ++
    (match insert.source with
      | some query => query.text
      | none => "DEFAULT VALUES") ++ clauseTexts insert.clauses

/-- A statement of SQL. -/
inductive Statement
  | query (asked : Query)
  | insert (insertion : Insert)
  /-- Any other statement, as its text. -/
  | other (text : String)

/-- A statement in normal form. -/
def Statement.text : Statement → String
  | .query asked => asked.text
  | .insert insertion => insertion.text
  | .other text => text

end VideoPlan.Sql
