import VideoPlan.Proofs.Action
import VideoPlan.Statement.OfSql

/-!
# What statements carry of SQL

A query or an insertion that becomes a statement should say nothing that the statement does not carry
(`Statement.CarriesAll`). Some clauses are not looked at, though: grouping and what comes behind HAVING, what
stands between the tables and the filter, the arguments of a table, locks, and most of what may stand around
the rows of an insertion. `lookedAt` leaves these out, at every depth of parentheses. What is left decides:
either a statement carries all of it, or it is refused.

Main statement: `Statement.ofSql?_carries`.
-/

namespace VideoPlan

open Sql (ObjectName TableFactor TableWithJoins QueryClauses Query)

/-! ## What is looked at

Each `lookedAt` keeps the parts that decide about the statement. -/

namespace Sql

/-- The last three parts of a name. -/
def ObjectName.lookedAt (name : ObjectName) : ObjectName :=
  (name.reverse.take 3).reverse

/-- A table without its arguments and hints. -/
def TableFactor.lookedAt : TableFactor → TableFactor
  | .table name _ label _ => .table (ObjectName.lookedAt name) "" label ""
  | factor => factor

def TableWithJoins.lookedAt (table : TableWithJoins) : TableWithJoins :=
  { table with factor := table.factor.lookedAt }

/-- A SELECT without TOP, INTO, grouping and the clauses that are kept as texts. -/
def Select.lookedAt (select : Select) : Select where
  distinct := select.distinct
  items := select.items
  tables := select.tables.map TableWithJoins.lookedAt
  filter := select.filter
  having := select.having

/-- The clauses without those behind OFFSET, such as FETCH and locks. -/
def QueryClauses.lookedAt (clauses : QueryClauses) : QueryClauses :=
  { clauses with others := [] }

def Query.lookedAt : Query → Query
  | .select clauses body => .select clauses.lookedAt body.lookedAt
  | .nested clauses inner => .nested clauses.lookedAt inner.lookedAt
  | .values clauses explicitRow rows => .values clauses.lookedAt explicitRow rows
  | .other clauses body => .other clauses.lookedAt body

/-- Rows of values without the clauses around them. -/
def Query.rowsLookedAt : Query → Query
  | .values _ explicitRow rows => .values {} explicitRow rows
  | query => query

/-- The words that open an insertion and say nothing more. -/
def plainOpenings : List String :=
  ["INSERT INTO", "INSERT", "INSERT INTO TABLE", "INSERT TABLE"]

/-- An insertion without its manner, PARTITION and the clauses around and behind its rows. -/
def Insert.lookedAt (insert : Insert) : Insert where
  opening := if insert.opening ∈ plainOpenings then insert.opening else "INSERT INTO"
  table := ObjectName.lookedAt insert.table
  columns := insert.columns
  source := insert.source.map Query.rowsLookedAt

def Statement.lookedAt : Statement → Statement
  | .query asked => .query asked.lookedAt
  | .insert insertion => .insert insertion.lookedAt
  | .other text => .other text

end Sql

/-! ## Carrying all -/

/-- No table, or one by its name of at most three parts and nothing else. -/
inductive CarriesTables : Option TableRef → List TableWithJoins → Prop
  | none : CarriesTables none []
  | one {name : ObjectName} (short : name.length ≤ 3) :
      CarriesTables (some (.ofName name)) [⟨.table name "" .none "", []⟩]

/-- The query has items, perhaps a table and a filter, and nothing else, perhaps in parentheses. -/
inductive SelectStatement.CarriesAll : SelectStatement → Query → Prop
  | select {table : Option TableRef} {tables : List TableWithJoins} {items : List Sql.SelectItem}
      {filter : Option Sql.Expr} (reads : CarriesTables table tables) :
      CarriesAll { table, items, filter } (.select {} { items, tables, filter })
  | nested {statement : SelectStatement} {inner : Query} (carries : CarriesAll statement inner) :
      CarriesAll statement (.nested {} inner)

/-- The insertion has a table, columns and rows of values, and nothing else. -/
inductive InsertStatement.CarriesAll : InsertStatement → Sql.Insert → Prop
  | insert {opening : String} {table : ObjectName} {columns : List Sql.Ident} {explicitRow : Bool}
      {rows : List (List Sql.Expr)} (plain : opening ∈ Sql.plainOpenings) (short : table.length ≤ 3) :
      CarriesAll { table := .ofName table, columns := columns.map Sql.Ident.value, rows }
        { opening, table, columns, source := some (.values {} explicitRow rows) }

/-- The statement carries all that is said. -/
inductive Statement.CarriesAll : Statement → Sql.Statement → Prop
  | select {selected : SelectStatement} {asked : Query} (carries : selected.CarriesAll asked) :
      CarriesAll (.select selected) (.query asked)
  | insert {inserted : InsertStatement} {insertion : Sql.Insert} (carries : inserted.CarriesAll insertion) :
      CarriesAll (.insert inserted) (.insert insertion)
  | unsupported (text : String) : CarriesAll (.unsupported text) (.other text)

/-! ## Tables -/

theorem length_lookedAt (name : ObjectName) : (ObjectName.lookedAt name).length ≤ 3 := by
  rw [ObjectName.lookedAt, List.length_reverse, List.length_take]
  exact Nat.min_le_left 3 _

theorem lookedAt_eq_self {name : ObjectName} (short : name.length ≤ 3) : ObjectName.lookedAt name = name := by
  rw [ObjectName.lookedAt, List.take_of_length_le (by rwa [List.length_reverse]), List.reverse_reverse]

/-- A table is meant by the last parts of its name alone. -/
theorem ofName_lookedAt (name : ObjectName) : TableRef.ofName (ObjectName.lookedAt name) = .ofName name := by
  have last : ((ObjectName.lookedAt name).map Sql.Ident.value).reverse =
      (name.map Sql.Ident.value).reverse.take 3 := by
    rw [ObjectName.lookedAt, List.map_reverse, List.reverse_reverse, List.map_take, List.map_reverse]
  unfold TableRef.ofName
  rw [last]
  match (name.map Sql.Ident.value).reverse with
  | [] | [_] | [_, _] | _ :: _ :: _ :: _ => rfl

theorem CarriesTables.length_le_one {table : Option TableRef} {tables : List TableWithJoins}
    (carries : CarriesTables table tables) : tables.length ≤ 1 := by
  cases carries with
  | none => exact Nat.zero_le 1
  | one => exact Nat.le_refl 1

theorem ofTables?_eq_ok {tables : List TableWithJoins} {table : Option TableRef} :
    TableRef.ofTables? tables = .ok table ↔ CarriesTables table (tables.map TableWithJoins.lookedAt) := by
  constructor
  · intro read
    unfold TableRef.ofTables? at read
    split at read
    · cases read
      exact .none
    · cases read
    · cases read
    · rename_i name args hints
      cases read
      rw [← ofName_lookedAt]
      exact .one (length_lookedAt name)
    · cases read
    · cases read
  · intro carries
    match tables with
    | [] =>
      cases carries
      rfl
    | [⟨.table name args label hints, joins⟩] =>
      obtain ⟨rfl, rfl, same⟩ : label = none ∧ joins = [] ∧ table = some (.ofName (ObjectName.lookedAt name)) := by
        cases carries
        exact ⟨rfl, rfl, rfl⟩
      rw [same, ofName_lookedAt]
      rfl
    | [⟨.join _ _, _⟩] => cases carries
    | [⟨.other _ _ _, _⟩] => cases carries
    | _ :: _ :: _ => exact absurd carries.length_le_one (by simp)

theorem lookedAt_of_carriesTables {table : Option TableRef} {tables : List TableWithJoins}
    (carries : CarriesTables table tables) : tables.map TableWithJoins.lookedAt = tables := by
  cases carries with
  | none => rfl
  | one short =>
    rw [List.map_singleton, TableWithJoins.lookedAt, TableFactor.lookedAt, lookedAt_eq_self short]

/-! ## Queries -/

theorem carriesAll_select_iff {selected : SelectStatement} {clauses : QueryClauses} {body : Sql.Select} :
    selected.CarriesAll (.select clauses body) ↔ clauses = {} ∧ selected.CarriesAll (.select {} body) := by
  constructor
  · intro carries
    cases carries with
    | select reads => exact ⟨rfl, .select reads⟩
  · rintro ⟨rfl, carries⟩
    exact carries

theorem carriesAll_nested_iff {selected : SelectStatement} {clauses : QueryClauses} {inner : Query} :
    selected.CarriesAll (.nested clauses inner) ↔ clauses = {} ∧ selected.CarriesAll inner := by
  constructor
  · intro carries
    cases carries with
    | nested carries => exact ⟨rfl, carries⟩
  · rintro ⟨rfl, carries⟩
    exact .nested carries

theorem checkClauses_eq_ok {clauses : QueryClauses} : checkClauses clauses = .ok () ↔ clauses.lookedAt = {} := by
  obtain ⟨ctes, orderBy, limit, offset, others⟩ := clauses
  unfold checkClauses unplannedClause? QueryClauses.lookedAt
  cases ctes <;> cases orderBy <;> cases limit <;> cases offset <;> simp

theorem ofSelect?_eq_ok {body : Sql.Select} {selected : SelectStatement} :
    SelectStatement.ofSelect? body = .ok selected ↔ selected.CarriesAll (.select {} body.lookedAt) := by
  obtain ⟨distinct, top, items, into, tables, early, filter, grouping, having, late⟩ := body
  unfold SelectStatement.ofSelect?
  constructor
  · intro read
    cases distinct with
    | some _ => cases read
    | none =>
      cases having with
      | some _ => cases read
      | none =>
        obtain ⟨table, readTable, answered⟩ := bind_eq_ok.mp read
        cases answered
        exact .select (ofTables?_eq_ok.mp readTable)
  · intro carries
    cases distinct with
    | some _ => cases carries
    | none =>
      cases having with
      | some _ => cases carries
      | none =>
        obtain @⟨table, _, _, _, reads⟩ := carries
        exact bind_eq_ok.mpr ⟨table, ofTables?_eq_ok.mpr reads, rfl⟩

/-- A query is planned exactly if a statement carries all of it that is looked at. The induction is along the
parentheses. -/
theorem ofQuery?_eq_ok {asked : Query} {selected : SelectStatement} :
    SelectStatement.ofQuery? asked = .ok selected ↔ selected.CarriesAll asked.lookedAt := by
  induction asked with
  | select clauses body =>
    rw [SelectStatement.ofQuery?, bind_eq_ok, Query.lookedAt, carriesAll_select_iff, ← checkClauses_eq_ok,
      ← ofSelect?_eq_ok]
    exact ⟨fun ⟨_, checked, read⟩ => ⟨checked, read⟩, fun ⟨checked, read⟩ => ⟨(), checked, read⟩⟩
  | nested clauses inner ih =>
    rw [SelectStatement.ofQuery?, bind_eq_ok, Query.lookedAt, carriesAll_nested_iff, ← checkClauses_eq_ok, ← ih]
    exact ⟨fun ⟨_, checked, read⟩ => ⟨checked, read⟩, fun ⟨checked, read⟩ => ⟨(), checked, read⟩⟩
  | values clauses explicitRow rows =>
    constructor
    · intro read
      obtain ⟨_, -, refused⟩ := bind_eq_ok.mp read
      cases refused
    · intro carries
      cases carries
  | other clauses body =>
    constructor
    · intro read
      obtain ⟨_, -, refused⟩ := bind_eq_ok.mp read
      cases refused
    · intro carries
      cases carries

theorem lookedAt_of_carriesAll_query {selected : SelectStatement} {asked : Query}
    (carries : selected.CarriesAll asked) : asked.lookedAt = asked := by
  induction carries with
  | select reads =>
    rw [Query.lookedAt, Sql.Select.lookedAt, lookedAt_of_carriesTables reads]
    rfl
  | nested _ ih =>
    rw [Query.lookedAt, ih]
    rfl

/-! ## Insertions -/

theorem ofInsert?_eq_ok {insertion : Sql.Insert} {inserted : InsertStatement} :
    InsertStatement.ofInsert? insertion = .ok inserted ↔ inserted.CarriesAll insertion.lookedAt := by
  obtain ⟨opening, table, columns, part, source, clauses⟩ := insertion
  -- an opening that says more counts as a plain one
  have plain : (if opening ∈ Sql.plainOpenings then opening else "INSERT INTO") ∈ Sql.plainOpenings := by
    split
    · assumption
    · exact List.mem_cons_self
  constructor
  · intro read
    cases source with
    | none => cases read
    | some source =>
      cases source with
      | values around explicitRow rows =>
        cases read
        rw [← ofName_lookedAt]
        exact .insert plain (length_lookedAt table)
      | _ => cases read
  · intro carries
    cases source with
    | none => cases carries
    | some source =>
      cases source with
      | values around explicitRow rows =>
        have same : inserted = ⟨.ofName (ObjectName.lookedAt table), columns.map Sql.Ident.value, rows⟩ := by
          cases carries
          rfl
        rw [same, ofName_lookedAt]
        rfl
      | _ => cases carries

theorem lookedAt_of_carriesAll_insert {inserted : InsertStatement} {insertion : Sql.Insert}
    (carries : inserted.CarriesAll insertion) : insertion.lookedAt = insertion := by
  cases carries with
  | insert plain short =>
    rw [Sql.Insert.lookedAt, lookedAt_eq_self short]
    dsimp only
    rw [if_pos plain]
    rfl

/-! ## Main statement -/

/-- What becomes a statement is all carried by it, but for what is not looked at, and everything else is refused.
So a statement carries all of what it stands for exactly if nothing is there that is not looked at. -/
theorem Statement.ofSql?_carries (sql : Sql.Statement) (statement : Statement) :
    (ofSql? sql = .ok statement ↔ statement.CarriesAll sql.lookedAt) ∧
    (statement.CarriesAll sql ↔ ofSql? sql = .ok statement ∧ sql.lookedAt = sql) := by
  have lowered : ofSql? sql = .ok statement ↔ statement.CarriesAll sql.lookedAt := by
    cases sql with
    | query asked =>
      rw [ofSql?, map_eq_ok]
      constructor
      · rintro ⟨selected, read, rfl⟩
        exact .select (ofQuery?_eq_ok.mp read)
      · intro carries
        cases carries with
        | select carries => exact ⟨_, ofQuery?_eq_ok.mpr carries, rfl⟩
    | insert insertion =>
      rw [ofSql?, map_eq_ok]
      constructor
      · rintro ⟨inserted, read, rfl⟩
        exact .insert (ofInsert?_eq_ok.mp read)
      · intro carries
        cases carries with
        | insert carries => exact ⟨_, ofInsert?_eq_ok.mpr carries, rfl⟩
    | other text =>
      constructor
      · intro read
        cases read
        exact .unsupported text
      · intro carries
        cases carries
        rfl
  refine ⟨lowered, fun carries => ?_, fun ⟨read, same⟩ => same ▸ lowered.mp read⟩
  have same : sql.lookedAt = sql := by
    cases carries with
    | select carries => exact congrArg Sql.Statement.query (lookedAt_of_carriesAll_query carries)
    | insert carries => exact congrArg Sql.Statement.insert (lookedAt_of_carriesAll_insert carries)
    | unsupported text => rfl
  exact ⟨lowered.mpr (same.symm ▸ carries), same⟩

/-- GROUP BY is not looked at: a query with it becomes a statement that does not carry it. -/
theorem grouping_not_carried :
    let column : Sql.Expr := .ident ⟨"id", none⟩
    let asked : Query := .select {}
      { items := [.plain column], tables := [⟨.table [⟨"MyVideo", none⟩] "" none "", []⟩], grouping := ["GROUP BY id"] }
    let selected : SelectStatement := { table := some { table := "MyVideo" }, items := [.plain column] }
    asked.text = "SELECT id FROM MyVideo GROUP BY id" ∧
      Statement.ofSql? (.query asked) = .ok (.select selected) ∧
      ¬ (Statement.select selected).CarriesAll (.query asked) := by
  intro column asked selected
  refine ⟨by decide +kernel, rfl, ?_⟩
  rintro ⟨carries⟩
  -- nothing is left out of what is carried, but the grouping is
  injection lookedAt_of_carriesAll_query carries with _ body
  have dropped : [] = ["GROUP BY id"] := congrArg Sql.Select.grouping body
  cases dropped

end VideoPlan
