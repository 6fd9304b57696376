import VideoPlan.Proofs.Catalog.WellFormed
import VideoPlan.Proofs.Conversion.Planning
import VideoPlan.Proofs.Expr.Columns
import VideoPlan.Proofs.Expr.Order

/-!
# What becomes of an insertion

Four things can be wrong with an insertion: its table is not there, the table has no column of a name that
is listed, a value is no constant, or a row is too short or too long. The first one in this order is what
the insertion fails with; an insertion with which nothing is wrong is planned.

* `InsertStatement.fault?`: what is wrong with an insertion into a dataset;
* `InsertStatement.PlannedAs`: the columns and the rows that it is planned with if nothing is;
* `Converting.answer_visitInsert_ofCatalog`: what it comes to, by its table and its fault;
* `insertion_follows_precedence`: the main statement, about all insertions and all catalogs that are reached.
-/

namespace VideoPlan

open Text
open VideoPlan.Expr (ofSql_of_ofSqlList verdict translateAll)

/-- Whether a column has this name but for case. -/
def Dataset.hasColumn (dataset : Dataset) (name : String) : Bool :=
  dataset.columns.any fun column => lowercase column.name = lowercase name

theorem Dataset.hasColumn_eq (dataset : Dataset) (name : String) :
    dataset.hasColumn name = (Scope.lastNamed? dataset.columns name).isSome := by
  unfold hasColumn
  rw [Bool.eq_iff_iff, Scope.lastNamed?_isSome_iff, List.any_eq_true]
  simp only [decide_eq_true_eq]

theorem Dataset.contains_ofDataset (dataset : Dataset) (name : String) :
    (Scope.ofDataset dataset).contains name = dataset.hasColumn name := by
  unfold Scope.contains
  rw [Scope.find?_ofDataset, hasColumn_eq]

/-! ## Values -/

namespace Expr

/-- The error of an expression that cannot be bound. -/
def refusal? (scope : Option Scope) (sql : Sql.Expr) : Option Error :=
  match ofSql scope sql with
  | .error error => some error
  | .ok _ => none

/-- The error of an expression is what is wrong with the first node on its walk that has a fault. -/
theorem refusal?_eq_findSome? (scope : Option Scope) (sql : Sql.Expr) :
    refusal? scope sql = (sql.walk false).findSome? (fault? scope) := by
  unfold refusal?
  rw [ofSql_eq_reference, reference]
  cases (sql.walk false).findSome? (fault? scope) <;> rfl

theorem ofSql_eq_verdict_refusal (scope : Option Scope) (sql : Sql.Expr) :
    ofSql scope sql = verdict (refusal? scope sql) (translate scope sql) := by
  rw [refusal?_eq_findSome?, ofSql_eq_reference, reference]

theorem ofSqlList_eq_verdict_refusal (scope : Option Scope) (sqls : List Sql.Expr) :
    ofSqlList scope sqls = verdict (sqls.findSome? (refusal? scope)) (translateAll scope sqls) := by
  induction sqls with
  | nil => rfl
  | cons sql sqls ih =>
    have hsql := ofSql_eq_verdict_refusal scope sql
    have first : (sql :: sqls).findSome? (refusal? scope) =
        (refusal? scope sql).or (sqls.findSome? (refusal? scope)) := by
      rw [List.findSome?_cons]
      cases refusal? scope sql <;> rfl
    rw [first, translateAll]
    simp [ofSqlList, hsql, ih]

end Expr

namespace InsertStatement

/-! ## Faults -/

/-- The first name listed that no column has. -/
def columnFault? (statement : InsertStatement) (dataset : Dataset) : Option Error :=
  (statement.columns.find? fun name => !dataset.hasColumn name).map .columnNotFound

/-- The error of the first value that is no constant, row by row and from left to right. -/
def valueFault? (statement : InsertStatement) : Option Error :=
  statement.rows.flatten.findSome? (Expr.refusal? none)

/-- The first of the rows, counted from `number`, that has not `width` values. -/
def rowFault? (width number : Nat) (rows : List (List Sql.Expr)) : Option Error :=
  (rows.zipIdx number).findSome? fun (row, number) =>
    if row.length = width then none else some (.bind (.rowLength number row.length width))

/-- The columns that an insertion is about: those that it lists, and all of them if it lists none. -/
def columnsIn (statement : InsertStatement) (dataset : Dataset) : List Column :=
  if statement.columns.isEmpty then dataset.columns
  else statement.columns.filterMap (Scope.lastNamed? dataset.columns)

/-- What is wrong with an insertion into a dataset. -/
def fault? (statement : InsertStatement) (dataset : Dataset) : Option Error :=
  (statement.columnFault? dataset).or
    (statement.valueFault?.or (rowFault? (statement.columnsIn dataset).length 1 statement.rows))

/-- The plan of an insertion into a dataset with which nothing is wrong. -/
def planned (statement : InsertStatement) (dataset : Dataset) : Plan :=
  .leaf (.insert statement.table dataset.id (statement.columnsIn dataset)
    (statement.rows.map (translateAll none)))

/-! ## Columns, values and rows -/

theorem targetColumns_eq_verdict (statement : InsertStatement) (dataset : Dataset) :
    Converting.targetColumns dataset (.ofDataset dataset) statement.columns =
      verdict (statement.columnFault? dataset) (statement.columnsIn dataset) := by
  have finds : (Scope.ofDataset dataset).find? = Scope.lastNamed? dataset.columns :=
    funext (Scope.find?_ofDataset dataset)
  rw [Converting.targetColumns_eq, finds]
  unfold columnFault? columnsIn
  simp only [dataset.contains_ofDataset]
  cases statement.columns.find? fun name => !dataset.hasColumn name <;> rfl

/-- Rows are bound like one long list of values. -/
theorem ofRows_eq_verdict (rows : List (List Sql.Expr)) :
    Expr.ofRows rows =
      verdict (rows.flatten.findSome? (Expr.refusal? none)) (rows.map (translateAll none)) := by
  induction rows with
  | nil => rfl
  | cons row rows ih =>
    have hrow := Expr.ofSqlList_eq_verdict_refusal none row
    rw [List.flatten_cons, List.findSome?_append, List.map_cons]
    simp [Expr.ofRows, hrow, ih]

/-- Rows without faults are bound each by itself. -/
theorem ofSqlList_of_mem {rows : List (List Sql.Expr)}
    (noFault : rows.flatten.findSome? (Expr.refusal? none) = none) :
    ∀ row ∈ rows, Expr.ofSqlList none row = .ok (translateAll none row) := by
  induction rows with
  | nil => exact fun _ member => nomatch member
  | cons row rows ih =>
    rw [List.flatten_cons, List.findSome?_append, Option.or_eq_none_iff] at noFault
    refine List.forall_mem_cons.mpr ⟨?_, ih noFault.2⟩
    rw [Expr.ofSqlList_eq_verdict_refusal, noFault.1]
    rfl

theorem length_translateAll (scope : Option Scope) (sqls : List Sql.Expr) :
    (translateAll scope sqls).length = sqls.length := by
  induction sqls with
  | nil => rfl
  | cons sql sqls ih => rw [translateAll, List.length_cons, ih, List.length_cons]

/-- Values keep their places when they are bound, so the rows can be counted before that. -/
theorem checkRows_eq_verdict (width number : Nat) (rows : List (List Sql.Expr)) :
    Converting.checkRows width number (rows.map (translateAll none)) =
      verdict (rowFault? width number rows) () := by
  -- each row raises the number with which the next one is reported
  induction rows generalizing number with
  | nil => rfl
  | cons row rows ih =>
    unfold rowFault?
    rw [List.map_cons, Converting.checkRows, length_translateAll, List.zipIdx_cons,
      List.findSome?_cons]
    by_cases fits : row.length = width
    · rw [if_pos fits]
      simp only [fits, if_true]
      exact ih (number + 1)
    · rw [if_neg fits]
      simp only [fits, if_false]
      rfl

/-! ## Insertions that are planned -/

/-- The columns and the rows that an insertion into the dataset is planned with. -/
structure PlannedAs (statement : InsertStatement) (dataset : Dataset) (columns : List Column)
    (rows : List (List Expr)) : Prop where
  /-- Without names it is about all columns, in the order of their positions. -/
  unlisted : statement.columns = [] →
    columns = dataset.columns ∧ columns.map (·.index) = List.range columns.length
  /-- Each name stands for the last column that has it. -/
  listed : statement.columns ≠ [] →
    columns.map some = statement.columns.map (Scope.lastNamed? dataset.columns)
  values : List.Forall₂ (List.Forall₂ fun sql expr => Expr.ofSql none sql = .ok expr)
    statement.rows rows
  width : ∀ row ∈ rows, row.length = columns.length
  constant : ∀ row ∈ rows, Expr.columnsOfAll row = []

section

variable {statement : InsertStatement} {dataset : Dataset}

theorem columnFault?_eq_none_iff : statement.columnFault? dataset = none ↔
    ∀ name ∈ statement.columns, dataset.hasColumn name = true := by
  unfold columnFault?
  rw [Option.map_eq_none_iff, List.find?_eq_none]
  simp only [Bool.not_eq_true', Bool.not_eq_false]

theorem map_some_columnsIn (listed : statement.columns ≠ [])
    (noFault : statement.columnFault? dataset = none) :
    (statement.columnsIn dataset).map some =
      statement.columns.map (Scope.lastNamed? dataset.columns) := by
  unfold columnsIn
  rw [if_neg (fun empty => listed (List.isEmpty_iff.mp empty)),
    List.map_filterMap_some_eq_filter_map_isSome, List.filter_eq_self]
  intro found member
  obtain ⟨name, isListed, rfl⟩ := List.mem_map.mp member
  rw [← dataset.hasColumn_eq]
  exact columnFault?_eq_none_iff.mp noFault name isListed

theorem rowFault?_eq_none_iff (width number : Nat) (rows : List (List Sql.Expr)) :
    rowFault? width number rows = none ↔ ∀ row ∈ rows, row.length = width := by
  induction rows generalizing number with
  | nil => simp [rowFault?]
  | cons row rows ih =>
    have rest := ih (number + 1)
    unfold rowFault? at rest ⊢
    rw [List.zipIdx_cons, List.findSome?_cons, List.forall_mem_cons, ← rest]
    by_cases fits : row.length = width <;> simp [fits]

theorem fault?_eq_none_iff : statement.fault? dataset = none ↔
    statement.columnFault? dataset = none ∧ statement.valueFault? = none ∧
      ∀ row ∈ statement.rows, row.length = (statement.columnsIn dataset).length := by
  unfold fault?
  rw [Option.or_eq_none_iff, Option.or_eq_none_iff, rowFault?_eq_none_iff]

/-- An insertion with which nothing is wrong is planned with its columns and the meanings of its values. -/
theorem plannedAs_of_fault? (noFault : statement.fault? dataset = none)
    (indices : dataset.columns.map (·.index) = List.range dataset.columns.length) :
    statement.PlannedAs dataset (statement.columnsIn dataset)
      (statement.rows.map (translateAll none)) := by
  obtain ⟨noColumnFault, noValueFault, fits⟩ := fault?_eq_none_iff.mp noFault
  have bound := ofSqlList_of_mem noValueFault
  constructor
  case unlisted =>
    intro unlisted
    have all : statement.columnsIn dataset = dataset.columns := by
      unfold columnsIn
      rw [unlisted]
      rfl
    rw [all]
    exact ⟨rfl, indices⟩
  case listed => exact fun listed => map_some_columnsIn listed noColumnFault
  case values =>
    refine List.forall₂_map_right_iff.mpr (List.forall₂_same.mpr fun row member => ?_)
    exact ofSql_of_ofSqlList (bound row member)
  case width =>
    refine List.forall_mem_map.mpr fun row member => ?_
    rw [length_translateAll]
    exact fits row member
  case constant =>
    exact List.forall_mem_map.mpr fun row member =>
      (Expr.columns_ofSqlList none _ _ (bound row member)).eq_nil

end

end InsertStatement

/-- What an insertion over a catalog comes to. Its scope is that of the table even if it fails behind
that. -/
theorem Converting.answer_visitInsert_ofCatalog (interface : CatalogInterface σ)
    (statement : InsertStatement) (conversion : Conversion) (state : σ) :
    (visitInsert (.ofCatalog interface) statement).answer { conversion, state } =
      match interface.find? state statement.table.table with
      | none => (.error (.tableNotFound statement.table.table), { conversion, state })
      | some dataset =>
        match statement.fault? dataset with
        | some error =>
          (.error error, { conversion := { conversion with scope := .ofDataset dataset }, state })
        | none =>
          (.ok (), { conversion := { plan := some (statement.planned dataset),
                                     scope := .ofDataset dataset }, state }) := by
  rw [answer_visitInsert, Binder.answer_dataset_ofCatalog]
  cases interface.find? state statement.table.table with
  | none => rfl
  | some dataset =>
    dsimp only
    rw [InsertStatement.targetColumns_eq_verdict, Binder.answer_rows_ofCatalog,
      InsertStatement.ofRows_eq_verdict]
    unfold InsertStatement.fault? InsertStatement.planned InsertStatement.valueFault?
    -- the names are looked up before the values are bound, and the rows are counted last
    cases statement.columnFault? dataset with
    | some error => rfl
    | none =>
      cases statement.rows.flatten.findSome? (Expr.refusal? none) with
      | some error => rfl
      | none =>
        dsimp only [verdict]
        rw [InsertStatement.checkRows_eq_verdict]
        cases InsertStatement.rowFault? (statement.columnsIn dataset).length 1 statement.rows <;> rfl

/-- Over a catalog that has the dataset of its table, an insertion comes to its verdict. -/
theorem Catalog.WellFormed.answer_visitInsert {catalog : Catalog} (wellFormed : catalog.WellFormed)
    (statement : InsertStatement) {dataset : Dataset} (member : dataset ∈ catalog.datasets)
    (same : lowercase dataset.name = lowercase statement.table.table) (conversion : Conversion) :
    (Converting.visitInsert (.ofCatalog interface) statement).answer { conversion, state := catalog } =
      match statement.fault? dataset with
      | some error =>
        (.error error,
          { conversion := { conversion with scope := .ofDataset dataset }, state := catalog })
      | none =>
        (.ok (), { conversion := { plan := some (statement.planned dataset),
                                   scope := .ofDataset dataset }, state := catalog }) := by
  rw [Converting.answer_visitInsert_ofCatalog, interface_find?,
    wellFormed.find?_of_lowercase member same]

/-- An insertion that is planned has its dataset there, and nothing is wrong with it. -/
theorem Catalog.WellFormed.dataset_of_planned {catalog : Catalog} (wellFormed : catalog.WellFormed)
    {statement : InsertStatement} {conversion : Conversion}
    (succeeds : ((Converting.visitInsert (.ofCatalog interface) statement).answer
      { conversion, state := catalog }).1 = .ok ()) :
    ∃ dataset ∈ catalog.datasets, lowercase dataset.name = lowercase statement.table.table ∧
      statement.fault? dataset = none := by
  rw [Converting.answer_visitInsert_ofCatalog, interface_find?] at succeeds
  cases found : catalog.find? statement.table.table with
  | none =>
    rw [found] at succeeds
    cases succeeds
  | some dataset =>
    obtain ⟨member, same⟩ := wellFormed.lowercase_name_of_find? found
    refine ⟨dataset, member, same, ?_⟩
    cases fault : statement.fault? dataset with
    | none => rfl
    | some error =>
      rw [found] at succeeds
      dsimp only at succeeds
      rw [fault] at succeeds
      cases succeeds

/-! ## Names in values -/

namespace Expr

/-- What has no operands is refused for itself. -/
theorem refusal?_of_leaf {scope : Option Scope} {sql : Sql.Expr} (leaf : sql.walk false = [sql]) :
    refusal? scope sql = fault? scope sql := by
  rw [refusal?_eq_findSome?, leaf, List.findSome?_singleton]

theorem fault?_compound {parts : List Sql.Ident} {last : Sql.Ident} (ends : parts.getLast? = some last) :
    fault? none (.compound parts) =
      some (if parts.length ≤ 3 then .columnNotFound last.value
        else .bind (.compoundIdentifier (Sql.dotted parts))) := by
  show partsFault? none parts = _
  unfold partsFault? nameOf?
  by_cases few : parts.length ≤ 3
  · rw [if_pos few, if_pos few, ends]
    rfl
  · rw [if_neg few, if_neg few]

end Expr

/-! ## Main statement -/

/-- Over every catalog that is reached, and whatever the conversion has planned before: an insertion fails if
no dataset has the name of its table but for case. Else it fails with the first name listed that no column of
the dataset has, or with the error of the first value that cannot be bound, or with the first row that is
too short or too long, in this order; then plan and catalog stay as they were. If nothing is wrong, it is
planned, with one column for each name in the order written, or with all columns in the order of their
positions, and with the bound values, in which no column occurs. A value cannot be bound exactly if a node on its
walk is wrong, and its error is that of the first such node; every name is wrong there, since it is not found, or
since it has more than three parts. -/
theorem insertion_follows_precedence {catalog : Catalog} (reached : catalog.Reached)
    (statement : InsertStatement) (conversion : Conversion) :
    let visited := (Converting.visitInsert (.ofCatalog Catalog.interface) statement).answer
      { conversion, state := catalog }
    ((∀ dataset ∈ catalog.datasets, lowercase dataset.name ≠ lowercase statement.table.table) →
      visited = (.error (.tableNotFound statement.table.table), { conversion, state := catalog })) ∧
    (∀ dataset ∈ catalog.datasets, lowercase dataset.name = lowercase statement.table.table →
      (∀ error, statement.fault? dataset = some error →
        visited = (.error error,
          { conversion := { conversion with scope := .ofDataset dataset }, state := catalog })) ∧
      (statement.fault? dataset = none →
        ∃ columns rows, statement.PlannedAs dataset columns rows ∧
          visited = (.ok (),
            { conversion :=
                { plan := some (.leaf (.insert statement.table dataset.id columns rows)),
                  scope := .ofDataset dataset },
              state := catalog }))) ∧
    (∀ value, Expr.refusal? none value = (value.walk false).findSome? (Expr.fault? none)) ∧
    (∀ name : Sql.Ident,
      Expr.fault? none (.ident name) = some (.columnNotFound name.value) ∧
      Expr.refusal? none (.ident name) = some (.columnNotFound name.value)) ∧
    ∀ (parts : List Sql.Ident) (last : Sql.Ident), parts.getLast? = some last →
      let error := if parts.length ≤ 3 then .columnNotFound last.value
        else .bind (.compoundIdentifier (Sql.dotted parts))
      Expr.fault? none (.compound parts) = some error ∧ Expr.refusal? none (.compound parts) = some error := by
  intro visited
  have wellFormed := reached.wellFormed
  refine ⟨fun missing => ?_, fun dataset member same => ?_, Expr.refusal?_eq_findSome? none, fun name => ⟨rfl, rfl⟩,
    fun parts last ends => ?_⟩
  · have unknown := (wellFormed.find?_eq_none_iff _).mpr missing
    show (Converting.visitInsert _ _).answer _ = _
    rw [Converting.answer_visitInsert_ofCatalog, Catalog.interface_find?, unknown]
  · have answered : visited = _ := wellFormed.answer_visitInsert statement member same conversion
    constructor
    · intro error fault
      rw [fault] at answered
      exact answered
    · intro noFault
      rw [noFault] at answered
      have indices := wellFormed.indices_eq dataset member
      exact ⟨_, _, InsertStatement.plannedAs_of_fault? noFault indices, answered⟩
  · intro error
    have fault := Expr.fault?_compound ends
    exact ⟨fault, (Expr.refusal?_of_leaf rfl).trans fault⟩

/-- Rows for a table under another spelling. A column that is not there counts before a name in a value, and
this before a row without values; without them two rows are planned, in the order of the names. -/
theorem insertion_follows_precedence_labels :
    let columns : List Column :=
      [{ name := "id", type := { base := .integer } }, { name := "label", type := { base := .text } }]
    let catalog := ((Catalog.Call.register "Labels" columns).outcome .empty).2
    let one : Sql.Expr := .constant (.number "1" false)
    let car : Sql.Expr := .constant (.string .plain "car")
    let name : Sql.Expr := .compound [⟨"Labels", none⟩, ⟨"x", none⟩]
    let insertion (names : List String) (rows : List (List Sql.Expr)) : InsertStatement :=
      { table := { table := "LABELS" }, columns := names, rows }
    let visited (statement : InsertStatement) :=
      (Converting.visitInsert (.ofCatalog Catalog.interface) statement).answer { state := catalog }
    catalog.Reached ∧
    (visited { table := { table := "Clips" } }).1 = .error (.tableNotFound "Clips") ∧
    (visited (insertion ["ID", "Box"] [[name], []])).1 = .error (.columnNotFound "Box") ∧
    (visited (insertion ["ID", "Label"] [[], [.nested name]])).1 = .error (.columnNotFound "x") ∧
    (visited (insertion ["ID", "Label"] [[one, car], []])).1 = .error (.bind (.rowLength 2 0 2)) ∧
    let statement := insertion ["LABEL", "Id"] [[car, one], [.nested car, one]]
    ∃ targets rows,
      (visited statement).2.conversion.plan =
        some (.leaf (.insert { table := "LABELS" } 1 targets rows)) ∧
      targets.map (·.index) = [1, 0] ∧ ∀ row ∈ rows, row.length = 2 ∧ Expr.columnsOfAll row = [] := by
  intro columns catalog one car name insertion visited
  have reached : catalog.Reached := Catalog.Reached.empty.call _
  let id : Column := { id := 1, name := "id", type := { base := .integer }, datasetId := some 1 }
  let label : Column :=
    { id := 2, name := "label", type := { base := .text }, index := 1, datasetId := some 1 }
  let dataset : Dataset :=
    { id := 1, name := "Labels", fileUrl := "Labels", identifierColumn := "id", isVideo := false
      columns := [id, label] }
  have datasets : catalog.datasets = [dataset] := by decide +kernel
  have member : dataset ∈ catalog.datasets := by rw [datasets]; exact List.mem_cons_self
  have same : lowercase dataset.name = lowercase "LABELS" := by decide +kernel
  have verdict (statement : InsertStatement) := insertion_follows_precedence reached statement .start
  have failed (statement : InsertStatement) (table : statement.table.table = "LABELS") {error : Error}
      (fault : statement.fault? dataset = some error) : (visited statement).1 = .error error := by
    rw [← table] at same
    exact congrArg Prod.fst (((verdict statement).2.1 dataset member same).1 error fault)
  have missing : ∀ dataset ∈ catalog.datasets, lowercase dataset.name ≠ lowercase "Clips" := by
    decide +kernel
  refine ⟨reached, ?_, ?_, ?_, ?_, ?_⟩
  · exact congrArg Prod.fst ((verdict { table := { table := "Clips" } }).1 missing)
  · exact failed (insertion ["ID", "Box"] [[name], []]) rfl (by decide +kernel)
  · exact failed (insertion ["ID", "Label"] [[], [.nested name]]) rfl (by decide +kernel)
  · exact failed (insertion ["ID", "Label"] [[one, car], []]) rfl (by decide +kernel)
  intro statement
  have noFault : statement.fault? dataset = none := by decide +kernel
  obtain ⟨targets, rows, planned, answered⟩ := ((verdict statement).2.1 dataset member same).2 noFault
  have resolved : targets.map some = ["LABEL", "Id"].map (Scope.lastNamed? dataset.columns) :=
    planned.listed (List.cons_ne_nil _ _)
  have found : ["LABEL", "Id"].map (Scope.lastNamed? dataset.columns) = [label, id].map some := by
    decide +kernel
  have same : targets = [label, id] :=
    (List.map_inj_right fun _ _ => Option.some.inj).mp (resolved.trans found)
  refine ⟨targets, rows, ?_, ?_, fun row member => ⟨?_, planned.constant row member⟩⟩
  · have left : visited statement = _ := answered
    rw [left]
  · rw [same]
    rfl
  · rw [planned.width row member, same]
    rfl

/-- A name of four parts is no name of a column, so it is not reported as one that is not found. -/
theorem four_parts_refused_as_such :
    let columns : List Column := [{ name := "label", type := { base := .text } }]
    let catalog := ((Catalog.Call.register "Labels" columns).outcome .empty).2
    let name : Sql.Expr := .compound [⟨"a", none⟩, ⟨"b", none⟩, ⟨"c", none⟩, ⟨"d", none⟩]
    let statement : InsertStatement := { table := { table := "Labels" }, rows := [[name]] }
    let visited := (Converting.visitInsert (.ofCatalog Catalog.interface) statement).answer
      { state := catalog }
    catalog.Reached ∧
    visited.1 = .error (.bind (.compoundIdentifier "a.b.c.d")) ∧
    ∀ column, visited.1 ≠ .error (.columnNotFound column) := by
  intro columns catalog name statement visited
  have reached : catalog.Reached := Catalog.Reached.empty.call _
  have refused : visited.1 = .error (.bind (.compoundIdentifier "a.b.c.d")) := by
    have known : ∃ dataset ∈ catalog.datasets,
        lowercase dataset.name = lowercase statement.table.table ∧
        statement.fault? dataset = some (.bind (.compoundIdentifier "a.b.c.d")) := by
      decide +kernel
    obtain ⟨dataset, member, same, fault⟩ := known
    have answered : visited = _ := reached.wellFormed.answer_visitInsert statement member same .start
    rw [answered, fault]
  refine ⟨reached, refused, fun column notFound => ?_⟩
  cases refused.symm.trans notFound

end VideoPlan
