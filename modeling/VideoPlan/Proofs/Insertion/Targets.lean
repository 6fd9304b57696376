import VideoPlan.Proofs.Insertion.Verdict

/-!
# The targets of insertions

The columns that an insertion is about are all columns of the dataset, or one column for each name that it
lists. Names are looked up one by one, and each finds the last column that has it. So the names of all
columns mean all columns only where no two of them are the same but for case, and a column that is listed
under two spellings is a target twice.

* `all_columns_listed`: an insertion without names beside one that lists all of them;
* `targets_distinct_iff`: when the targets are distinct and each of them is given one value.
-/

namespace VideoPlan

open Text
open VideoPlan.Expr (translateAll)

namespace InsertStatement

variable {statement : InsertStatement} {dataset : Dataset}

theorem columnsIn_of_unlisted (unlisted : statement.columns = []) :
    statement.columnsIn dataset = dataset.columns := by
  unfold columnsIn
  rw [unlisted]
  rfl

theorem mem_of_mem_columnsIn {column : Column} (member : column ∈ statement.columnsIn dataset) :
    column ∈ dataset.columns := by
  unfold columnsIn at member
  split at member
  · exact member
  · obtain ⟨name, -, found⟩ := List.mem_filterMap.mp member
    exact Scope.mem_of_lastNamed? found

/-! ## All names -/

section

variable (listed : statement.columns = dataset.columnNames)

include listed

/-- Each column has its own name. -/
theorem columnFault?_of_allListed : statement.columnFault? dataset = none := by
  rw [columnFault?_eq_none_iff, listed]
  intro name member
  obtain ⟨column, kept, rfl⟩ := List.mem_map.mp member
  rw [dataset.hasColumn_eq, Scope.lastNamed?_isSome_iff]
  exact ⟨column, kept, rfl⟩

variable (nonempty : dataset.columns ≠ [])

include nonempty

theorem map_some_columnsIn_of_allListed :
    (statement.columnsIn dataset).map some =
      dataset.columns.map fun column => Scope.lastNamed? dataset.columns column.name := by
  have listsSome : statement.columns ≠ [] := by
    rw [listed]
    exact fun empty => nonempty (List.map_eq_nil_iff.mp empty)
  rw [map_some_columnsIn listsSome (columnFault?_of_allListed listed), listed, Dataset.columnNames,
    List.map_map]
  rfl

theorem length_columnsIn_of_allListed :
    (statement.columnsIn dataset).length = dataset.columns.length := by
  have resolved := congrArg List.length (map_some_columnsIn_of_allListed listed nonempty)
  rwa [List.length_map, List.length_map] at resolved

/-- The names of all columns mean all columns exactly if no two of them are the same but for case. -/
theorem columnsIn_of_allListed_iff (different : dataset.columns.Nodup) :
    statement.columnsIn dataset = dataset.columns ↔ (dataset.columnNames.map lowercase).Nodup := by
  have resolved := map_some_columnsIn_of_allListed listed nonempty
  have lowered : dataset.columnNames.map lowercase =
      dataset.columns.map fun column => lowercase column.name := List.map_map
  calc statement.columnsIn dataset = dataset.columns
    _ ↔ (statement.columnsIn dataset).map some = dataset.columns.map some :=
      (List.map_inj_right fun _ _ => Option.some.inj).symm
    _ ↔ ∀ column ∈ dataset.columns,
        Scope.lastNamed? dataset.columns column.name = some column := by
      rw [resolved, List.map_inj_left]
    _ ↔ (dataset.columnNames.map lowercase).Nodup := by
      rw [Scope.forall_lastNamed?_name_iff different, lowered]

end

/-- What is wrong with an insertion is the same whether it lists all names or none. -/
theorem fault?_of_allListed {bare : InsertStatement} (unlisted : bare.columns = [])
    (listed : statement.columns = dataset.columnNames) (nonempty : dataset.columns ≠ [])
    (sameRows : bare.rows = statement.rows) :
    bare.fault? dataset = statement.fault? dataset := by
  have noFault : bare.columnFault? dataset = none := by
    rw [columnFault?_eq_none_iff, unlisted]
    exact fun _ member => nomatch member
  unfold fault? valueFault?
  rw [noFault, columnFault?_of_allListed listed, columnsIn_of_unlisted unlisted,
    length_columnsIn_of_allListed listed nonempty, sameRows]

/-- The plans are the same exactly if the targets are. -/
theorem planned_of_allListed_iff {bare : InsertStatement} (unlisted : bare.columns = [])
    (listed : statement.columns = dataset.columnNames) (nonempty : dataset.columns ≠ [])
    (sameTable : bare.table = statement.table) (sameRows : bare.rows = statement.rows)
    (different : dataset.columns.Nodup) :
    bare.planned dataset = statement.planned dataset ↔
      (dataset.columnNames.map lowercase).Nodup := by
  unfold planned Plan.leaf
  rw [sameTable, sameRows, columnsIn_of_unlisted unlisted]
  simp only [Plan.node.injEq, Operator.insert.injEq, true_and, and_true]
  rw [eq_comm, columnsIn_of_allListed_iff listed nonempty different]

/-! ## Distinct names -/

/-- The targets are distinct exactly if the names are, apart from case. -/
theorem nodup_columnsIn_iff (different : dataset.columns.Nodup)
    (noFault : statement.columnFault? dataset = none) :
    (statement.columnsIn dataset).Nodup ↔ (statement.columns.map lowercase).Nodup := by
  by_cases unlisted : statement.columns = []
  · rw [columnsIn_of_unlisted unlisted, unlisted]
    exact iff_of_true different List.nodup_nil
  · have resolved := map_some_columnsIn unlisted noFault
    calc (statement.columnsIn dataset).Nodup
      _ ↔ ((statement.columnsIn dataset).map some).Nodup :=
        (List.nodup_map_iff fun _ _ => Option.some.inj).symm
      _ ↔ (statement.columns.map (Scope.lastNamed? dataset.columns)).Nodup := by rw [resolved]
      _ ↔ (statement.columns.map lowercase).Nodup := by
        unfold List.Nodup
        rw [List.pairwise_map, List.pairwise_map]
        -- a name that is listed has a column, so two of them find the same only if they differ in case
        refine List.Pairwise.iff_of_mem fun {name name'} isListed _ => not_congr ?_
        have known := columnFault?_eq_none_iff.mp noFault name isListed
        rw [dataset.hasColumn_eq] at known
        obtain ⟨column, found⟩ := Option.isSome_iff_exists.mp known
        exact Scope.lastNamed?_eq_iff found

end InsertStatement

/-! ## Values -/

/-- The values that a row has for a column. -/
def valuesFor (columns : List Column) (row : List Expr) (column : Column) : List Expr :=
  ((columns.zip row).filter fun entry => entry.1 = column).map (·.2)

/-- A row has as many values for a column as this one occurs among the columns. -/
theorem length_valuesFor {columns : List Column} {row : List Expr}
    (width : row.length = columns.length) (column : Column) :
    (valuesFor columns row column).length = columns.count column := by
  -- the row is long enough for all columns to be among the pairs
  have firsts : (columns.zip row).map Prod.fst = columns := List.map_fst_zip (Nat.le_of_eq width.symm)
  unfold valuesFor
  rw [List.length_map, ← List.countP_eq_length_filter]
  conv_rhs => rw [← firsts]
  rw [List.count, List.countP_map]
  rfl

/-- A row has one value for each column exactly if the columns are distinct. -/
theorem forall_valuesFor_iff {columns : List Column} {row : List Expr}
    (width : row.length = columns.length) :
    (∀ column ∈ columns, ∃ value, valuesFor columns row column = [value]) ↔ columns.Nodup := by
  rw [List.nodup_iff_count_eq_one]
  refine forall₂_congr fun column member => ?_
  rw [← List.length_eq_one_iff, length_valuesFor width]

/-! ## Main statements -/

/-- In every catalog that is reached, and for every dataset with columns: rows that are inserted without
names fail exactly as they do with the names of all columns in order. Where they are planned, the plans are
the same exactly if no two columns have the same name but for case. -/
theorem all_columns_listed {catalog : Catalog} (reached : catalog.Reached) {dataset : Dataset}
    (member : dataset ∈ catalog.datasets) (nonempty : dataset.columns ≠ []) (table : TableRef)
    (same : lowercase dataset.name = lowercase table.table) (rows : List (List Sql.Expr))
    (conversion : Conversion) :
    let visited (names : List String) :=
      (Converting.visitInsert (.ofCatalog Catalog.interface) { table, columns := names, rows }).answer
        { conversion, state := catalog }
    let bare := visited []
    let listing := visited dataset.columnNames
    bare.1 = listing.1 ∧
    (bare.1 = .ok () →
      (bare.2.conversion.plan = listing.2.conversion.plan ↔
        (dataset.columnNames.map lowercase).Nodup)) := by
  intro visited bare listing
  have wellFormed := reached.wellFormed
  have hbare : bare = _ := wellFormed.answer_visitInsert { table, rows } member same conversion
  have hlisting : listing = _ :=
    wellFormed.answer_visitInsert { table, columns := dataset.columnNames, rows } member same conversion
  -- the verdicts have the same fault, so they differ at most in their plans
  have sameFault : InsertStatement.fault? { table, rows } dataset =
      InsertStatement.fault? { table, columns := dataset.columnNames, rows } dataset :=
    InsertStatement.fault?_of_allListed rfl rfl nonempty rfl
  rw [hbare, hlisting, sameFault]
  cases InsertStatement.fault? { table, columns := dataset.columnNames, rows } dataset with
  | some error => exact ⟨rfl, fun planned => nomatch planned⟩
  | none =>
    have different := wellFormed.nodup_columns member
    exact ⟨rfl, fun _ => Option.some_inj.trans
      (InsertStatement.planned_of_allListed_iff rfl rfl nonempty rfl rfl different)⟩

/-- One row for two tables of two columns each. For the table whose columns have the names `x` and `X` it is
planned with and without the names, but not alike. -/
theorem all_columns_listed_shadowed :
    let column (name : String) : Column := { name, type := { base := .integer } }
    let calls : List Catalog.Call :=
      [.register "Labels" [column "id", column "label"], .register "Twice" [column "x", column "X"]]
    let catalog := calls.foldl (fun catalog call => (call.outcome catalog).2) .empty
    let rows : List (List Sql.Expr) := [[.constant (.number "1" false), .constant .null]]
    let visited (table : String) (names : List String) :=
      (Converting.visitInsert (.ofCatalog Catalog.interface)
        { table := { table }, columns := names, rows }).answer { state := catalog }
    let plan (table : String) (names : List String) := (visited table names).2.conversion.plan
    catalog.Reached ∧
    ((visited "LABELS" []).1 = .ok () ∧ (visited "LABELS" ["id", "label"]).1 = .ok () ∧
      plan "LABELS" [] = plan "LABELS" ["id", "label"]) ∧
    (visited "TWICE" []).1 = .ok () ∧ (visited "TWICE" ["x", "X"]).1 = .ok () ∧
      plan "TWICE" [] ≠ plan "TWICE" ["x", "X"] := by
  intro column calls catalog rows visited plan
  have reached : catalog.Reached := Catalog.Reached.empty.calls calls
  -- the names are those of a dataset, and its row is planned
  have listed (table : String) (names : List String) (known : ∃ dataset ∈ catalog.datasets,
      dataset.columnNames = names ∧ dataset.columns ≠ [] ∧
        lowercase dataset.name = lowercase table ∧
        InsertStatement.fault? { table := { table }, rows } dataset = none) :
      (visited table []).1 = .ok () ∧ (visited table names).1 = .ok () ∧
        (plan table [] = plan table names ↔ (names.map lowercase).Nodup) := by
    obtain ⟨dataset, member, rfl, nonempty, same, noFault⟩ := known
    obtain ⟨alike, plans⟩ := all_columns_listed reached member nonempty { table } same rows .start
    have answered :=
      reached.wellFormed.answer_visitInsert { table := { table }, rows } member same .start
    rw [noFault] at answered
    dsimp only at alike plans
    dsimp only [plan, visited]
    have succeeds := congrArg Prod.fst answered
    exact ⟨succeeds, alike.symm.trans succeeds, plans succeeds⟩
  obtain ⟨bare, all, same⟩ := listed "LABELS" ["id", "label"] (by decide +kernel)
  obtain ⟨bare', all', same'⟩ := listed "TWICE" ["x", "X"] (by decide +kernel)
  exact ⟨reached, ⟨bare, all, same.mpr (by decide +kernel)⟩, bare', all',
    fun equal => absurd (same'.mp equal) (by decide +kernel)⟩

/-- In every catalog that is reached: an insertion that is planned is about columns of the one dataset that
has the identifier in the node. These are distinct exactly if the names are that it lists, apart from case,
and then, and only then, each row has one value for each of them. -/
theorem targets_distinct_iff {catalog : Catalog} (reached : catalog.Reached)
    (statement : InsertStatement) (conversion : Conversion) :
    let visited := (Converting.visitInsert (.ofCatalog Catalog.interface) statement).answer
      { conversion, state := catalog }
    visited.1 = .ok () →
    ∃ dataset ∈ catalog.datasets, ∃ columns rows,
      visited.2.conversion.plan =
        some (.leaf (.insert statement.table dataset.id columns rows)) ∧
      (∀ other ∈ catalog.datasets, other.id = dataset.id → other = dataset) ∧
      (∀ column ∈ columns, column ∈ dataset.columns) ∧
      (columns.Nodup ↔ (statement.columns.map lowercase).Nodup) ∧
      ∀ row ∈ rows, row.length = columns.length ∧
        ((∀ column ∈ columns, ∃ value, valuesFor columns row column = [value]) ↔
          (statement.columns.map lowercase).Nodup) := by
  intro visited succeeds
  have wellFormed := reached.wellFormed
  obtain ⟨dataset, member, same, noFault⟩ := wellFormed.dataset_of_planned succeeds
  have answered : visited = _ := wellFormed.answer_visitInsert statement member same conversion
  rw [noFault] at answered
  have left : visited.2.conversion.plan = some (statement.planned dataset) := by rw [answered]
  have planned := InsertStatement.plannedAs_of_fault? noFault (wellFormed.indices_eq dataset member)
  obtain ⟨noColumnFault, -, -⟩ := InsertStatement.fault?_eq_none_iff.mp noFault
  have distinct := InsertStatement.nodup_columnsIn_iff (wellFormed.nodup_columns member) noColumnFault
  refine ⟨dataset, member, _, _, left, ?_, ?_, distinct, ?_⟩
  · exact fun other member' sameId => wellFormed.eq_of_id_eq member' member sameId
  · exact fun column => InsertStatement.mem_of_mem_columnsIn
  · intro row row_member
    have width := planned.width row row_member
    exact ⟨width, (forall_valuesFor_iff width).trans distinct⟩

/-- Two rows for columns under other spellings: the targets are distinct, with one value each. -/
theorem targets_distinct_iff_respelled :
    let columns : List Column :=
      [{ name := "id", type := { base := .integer } }, { name := "label", type := { base := .text } }]
    let catalog := ((Catalog.Call.register "Labels" columns).outcome .empty).2
    let one : Sql.Expr := .constant (.number "1" false)
    let car : Sql.Expr := .constant (.string .plain "car")
    let statement : InsertStatement :=
      { table := { table := "LABELS" }, columns := ["LABEL", "Id"],
        rows := [[car, one], [car, .constant .null]] }
    let visited := (Converting.visitInsert (.ofCatalog Catalog.interface) statement).answer
      { state := catalog }
    catalog.Reached ∧ visited.1 = .ok () ∧
    ∃ targets rows,
      visited.2.conversion.plan = some (.leaf (.insert statement.table 1 targets rows)) ∧
      targets.Nodup ∧
      ∀ row ∈ rows, ∀ column ∈ targets, ∃ value, valuesFor targets row column = [value] := by
  intro columns catalog one car statement visited
  have reached : catalog.Reached := Catalog.Reached.empty.call _
  have known : ∃ dataset ∈ catalog.datasets,
      lowercase dataset.name = lowercase statement.table.table ∧ statement.fault? dataset = none := by
    decide +kernel
  have succeeds : visited.1 = .ok () := by
    obtain ⟨dataset, member, same, noFault⟩ := known
    have answered : visited = _ := reached.wellFormed.answer_visitInsert statement member same .start
    rw [answered, noFault]
  have first : ∀ dataset ∈ catalog.datasets, dataset.id = 1 := by decide +kernel
  have distinct : (statement.columns.map lowercase).Nodup := by decide +kernel
  obtain ⟨dataset, member, targets, rows, planned, -, -, targets_iff, rows_iff⟩ :=
    targets_distinct_iff reached statement .start succeeds
  rw [first dataset member] at planned
  dsimp only [visited] at succeeds ⊢
  exact ⟨reached, succeeds, targets, rows, planned, targets_iff.mpr distinct,
    fun row row_member => (rows_iff row row_member).2.mpr distinct⟩

/-- A column that is listed under two spellings is a target twice, and a row has two values for it. The
names of the columns of each dataset differ even apart from case. -/
theorem column_listed_twice :
    let columns : List Column :=
      [{ name := "id", type := { base := .integer } }, { name := "label", type := { base := .text } }]
    let catalog := ((Catalog.Call.register "Labels" columns).outcome .empty).2
    let statement : InsertStatement :=
      { table := { table := "Labels" }, columns := ["id", "ID"],
        rows := [[.constant (.number "1" false), .constant (.number "2" false)]] }
    let visited := (Converting.visitInsert (.ofCatalog Catalog.interface) statement).answer
      { state := catalog }
    let id : Column := { id := 1, name := "id", type := { base := .integer }, datasetId := some 1 }
    let row : List Expr := [.literal (.integer 1), .literal (.integer 2)]
    catalog.Reached ∧
    (∀ dataset ∈ catalog.datasets, (dataset.columnNames.map lowercase).Nodup) ∧
    visited.1 = .ok () ∧
    visited.2.conversion.plan = some (.leaf (.insert statement.table 1 [id, id] [row])) ∧
    ¬ [id, id].Nodup ∧ valuesFor [id, id] row id = row := by
  intro columns catalog statement visited id row
  have reached : catalog.Reached := Catalog.Reached.empty.call _
  have known : ∃ dataset ∈ catalog.datasets,
      lowercase dataset.name = lowercase statement.table.table ∧ statement.fault? dataset = none ∧
        dataset.id = 1 ∧ statement.columnsIn dataset = [id, id] := by
    decide +kernel
  obtain ⟨dataset, member, same, noFault, first, targets⟩ := known
  have answered : visited = _ := reached.wellFormed.answer_visitInsert statement member same .start
  have bound : statement.rows.map (translateAll none) = [row] := by rfl
  have planned : statement.planned dataset = .leaf (.insert statement.table 1 [id, id] [row]) := by
    unfold InsertStatement.planned
    rw [first, targets, bound]
  rw [noFault, planned] at answered
  refine ⟨reached, by decide +kernel, ?_, ?_, ?_, ?_⟩
  · rw [answered]
  · rw [answered]
  · decide +kernel
  · rfl

end VideoPlan
