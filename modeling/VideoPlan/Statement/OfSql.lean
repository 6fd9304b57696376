import VideoPlan.Error
import VideoPlan.Statement

/-!
# Statements of SQL that can be planned

Of the queries of SQL those are statements that read at most one table, without renaming it, and filter
and compute row by row. A clause that would change the rows in another way makes the statement a failure
that names the first such clause, from the outside in. Grouping, locks and limits that only take the
first rows are not looked at.
-/

namespace VideoPlan

open Sql (TableFactor TableWithJoins QueryClauses Query)

/-- The first clause around a query that has no plan. -/
def unplannedClause? (clauses : QueryClauses) : Option Feature :=
  if clauses.ctes.isSome then some .withClause
  else if clauses.orderBy.isSome then some .orderBy
  else if clauses.limit.isSome || clauses.offset.isSome then some .limitOffset
  else none

/-- Fails if the clauses around a query have no plan. -/
def checkClauses (clauses : QueryClauses) : Except Error Unit :=
  match unplannedClause? clauses with
  | some feature => .error (.notImplemented feature)
  | none => .ok ()

/-- The one table that a query reads. -/
def TableRef.ofTables? (tables : List TableWithJoins) : Except Error (Option TableRef) :=
  match tables with
  | [] => .ok none
  | _ :: _ :: _ => .error (.notImplemented .severalTables)
  | [⟨_, _ :: _⟩] => .error (.notImplemented .join)
  | [⟨.table name _ none _, []⟩] => .ok (some (.ofName name))
  | [⟨.table _ _ (some _) _, []⟩] => .error (.notImplemented .tableAlias)
  | [⟨factor, []⟩] => .error (.notImplemented (.tableFactor factor.text))

/-- The statement that a SELECT is. -/
def SelectStatement.ofSelect? (select : Sql.Select) : Except Error SelectStatement := do
  if select.distinct.isSome then throw (.notImplemented .distinct)
  else if select.having.isSome then throw (.notImplemented .having)
  else
    let table ← TableRef.ofTables? select.tables
    return { table, items := select.items, filter := select.filter }

/-- The statement that a query is. -/
def SelectStatement.ofQuery? : Query → Except Error SelectStatement
  | .select clauses body => do
    checkClauses clauses
    ofSelect? body
  | .nested clauses inner => do
    checkClauses clauses
    ofQuery? inner
  | .values clauses explicitRow rows => do
    checkClauses clauses
    throw (.notImplemented (.queryBody (Sql.valuesText explicitRow rows)))
  | .other clauses body => do
    checkClauses clauses
    throw (.notImplemented (.queryBody body))

/-- The statement that an insertion is; its rows must be written out. -/
def InsertStatement.ofInsert? (insert : Sql.Insert) : Except Error InsertStatement :=
  match insert.source with
  | none => .error (.parse .insertWithoutValues)
  | some (.values _ _ rows) =>
    .ok { table := .ofName insert.table, columns := insert.columns.map Sql.Ident.value, rows }
  | some _ => .error (.notImplemented .insertSelect)

/-- The statement that a statement of SQL is. -/
def Statement.ofSql? : Sql.Statement → Except Error Statement
  | .query asked => Statement.select <$> SelectStatement.ofQuery? asked
  | .insert insertion => Statement.insert <$> InsertStatement.ofInsert? insertion
  | .other text => .ok (.unsupported text)

end VideoPlan
