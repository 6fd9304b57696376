import VideoPlan.Catalog.Store
import VideoPlan.Proofs.Catalog.Definition
import VideoPlan.Proofs.Conversion.Planning
import VideoPlan.Proofs.Statement.Separation

/-!
# Creations that are read

The grammar of declarations gives an element type to arrays only, and dimensions too. So every definition that a
statement of a text declares has a sound type (`isSound_of_ofText?`), and the statement is planned unless a name
is missing or, for a table, comes twice. Texts that are read so exist for each derivation (`ofText?_of_derives`).

Main statement: `Statement.creation_fails_by_names`.
-/

namespace VideoPlan

open Sql (Token)

/-- The definitions that a statement declares columns, inputs or outputs by. -/
def Statement.definitions : Statement → List ColumnDefinition
  | .createTable declaration => declaration.columns
  | .createUdf declaration => declaration.inputs ++ declaration.outputs
  | _ => []

namespace Declaration

/-! ## Types in the grammar -/

theorem scalar?_ne_ndArray (name : String) : scalar? name ≠ some .ndArray := by
  unfold scalar?
  split <;> nofun

variable {spelling : Spelling} {taken : List Token}

theorem isSound_of_typing {type : DataType} (typed : spelling.Typing taken type) : type.IsSound := by
  have scalar {name : String} {base : ColumnType} (named : scalar? name = some base) :
      DataType.IsSound { base } := by
    have noArray : base ≠ .ndArray := fun array => scalar?_ne_ndArray name (array ▸ named)
    exact (if_neg noArray).mpr ⟨rfl, rfl⟩
  cases typed with
  | scalar _ named => exact scalar named
  | sized _ named => exact scalar named
  | array => rfl
  | dimensioned => rfl

theorem isSound_of_columns {definitions : List ColumnDefinition} (declared : spelling.Columns taken definitions) :
    ∀ definition ∈ definitions, definition.type.IsSound := by
  obtain ⟨inner, -, separated⟩ := declared
  refine separated.forall_mem fun taken definition column => ?_
  cases column with
  | mk _ typed => exact isSound_of_typing typed

/-- Whatever its spelling, what the grammar declares has sound types. -/
theorem isSound_of_derives {statement : Statement} (derived : spelling.Derives taken statement) :
    ∀ definition ∈ statement.definitions, definition.type.IsSound := by
  cases derived with
  | createTable _ _ _ _ declared => exact isSound_of_columns declared
  | createUdf _ _ _ _ _ declaredInputs _ declaredOutputs =>
    exact List.forall_mem_append.mpr ⟨isSound_of_columns declaredInputs, isSound_of_columns declaredOutputs⟩
  | load => exact nofun

end Declaration

namespace Statement

/-! ## Statements of texts -/

/-- A statement of plain SQL declares nothing. -/
theorem definitions_of_ofSql? {sql : Sql.Statement} {statement : Statement} (lowered : ofSql? sql = .ok statement) :
    statement.definitions = [] := by
  cases sql with
  | query =>
    obtain ⟨_, -, rfl⟩ := map_eq_ok.mp lowered
    rfl
  | insert =>
    obtain ⟨_, -, rfl⟩ := map_eq_ok.mp lowered
    rfl
  | other =>
    cases lowered
    rfl

theorem isSound_of_ofText? {sql : String} {statement : Statement} (read : ofText? sql = .ok statement) :
    ∀ definition ∈ statement.definitions, definition.type.IsSound := by
  obtain ⟨statements, script, only⟩ := bind_eq_ok.mp read
  have member : statement ∈ statements := by
    match statements with
    | [] | _ :: _ :: _ => cases only
    | [_] =>
      cases only
      exact List.mem_singleton_self statement
  unfold Script.ofText? at script
  split at script
  · obtain ⟨tokens, rest, taken⟩ := Script.mem_of_ofTokens? script member
    rcases ofTokens?_eq_ok.mp taken with declared | ⟨-, plain, -, lowered⟩
    · obtain ⟨_, -, derived, -⟩ := Declaration.readAs_iff_derives.mp declared
      exact Declaration.isSound_of_derives derived
    · rw [definitions_of_ofSql? lowered]
      exact nofun
  · cases script

/-- A text is read as the statement that the grammar derives from its tokens. -/
theorem ofText?_of_derives {sql : String} {tokens : List Token} {statement : Statement}
    (scanned : Token.scan? sql = some tokens) (derived : Declaration.asRead.Derives tokens statement) :
    ofText? sql = .ok statement := by
  have read : Declaration.ReadAs tokens statement [] :=
    Declaration.readAs_iff_derives.mpr ⟨tokens, (List.append_nil tokens).symm, derived, fun _ _ => nofun⟩
  obtain ⟨token, more, rfl, noSemicolon⟩ : ∃ token more, tokens = token :: more ∧ token ≠ .semicolon := by
    cases derived with
    | createTable opens | createUdf _ opens | load opens => exact ⟨_, _, rfl, fun same => by subst same; cases opens⟩
  refine bind_eq_ok.mpr ⟨[statement], ?_, rfl⟩
  rw [Script.ofText?, scanned]
  exact Script.ofTokens?_last noSemicolon (ofTokens?_eq_ok.mpr (.inl read))

/-! ## Visits to creations -/

open ColumnDefinition Converting

variable {σ : Type} (interface : CatalogInterface σ) (converting : Converting σ)

/-- The creation of a table answers as its definitions become columns. -/
theorem answer_visitCreateTable_ofCatalog (declaration : TableDeclaration) :
    ((visitCreateTable (.ofCatalog interface) declaration).answer converting).1 =
      (fun _ => ()) <$> toColumns declaration.columns := by
  rw [answer_visitCreateTable, Binder.answer_columns_ofCatalog]
  cases toColumns declaration.columns <;> rfl

/-- The creation of a table plans the columns that its definitions become. -/
theorem plan_visitCreateTable_ofCatalog {declaration : TableDeclaration} {columns : List Column}
    (declared : toColumns declaration.columns = .ok columns) :
    ((visitCreateTable (.ofCatalog interface) declaration).answer converting).2.conversion.plan =
      some (.leaf (.createTable declaration.table columns declaration.ifNotExists)) := by
  rw [answer_visitCreateTable, Binder.answer_columns_ofCatalog, declared]
  rfl

/-- The creation of a function answers as its inputs become parameters, and then its outputs. -/
theorem answer_visitCreateUdf_ofCatalog (declaration : UdfDeclaration) :
    ((visitCreateUdf (.ofCatalog interface) declaration).answer converting).1 =
      toParameters true declaration.inputs >>= fun _ => (fun _ => ()) <$> toParameters false declaration.outputs := by
  rw [answer_visitCreateUdf, Binder.answer_parameters_ofCatalog]
  cases toParameters true declaration.inputs with
  | error error => rfl
  | ok inputs =>
    dsimp only
    rw [Binder.answer_parameters_ofCatalog]
    cases toParameters false declaration.outputs <;> rfl

/-- The creation of a function fails exactly if an input or output has no name. -/
theorem visitCreateUdf_eq_error_iff {declaration : UdfDeclaration}
    (sound : ∀ definition ∈ definitions (.createUdf declaration), definition.type.IsSound) {error : Error} :
    ((visitCreateUdf (.ofCatalog interface) declaration).answer converting).1 = .error error ↔
      error = .bind .emptyColumnName ∧ ∃ definition ∈ definitions (.createUdf declaration), definition.name = "" := by
  obtain ⟨soundInputs, soundOutputs⟩ := List.forall_mem_append.mp sound
  rw [answer_visitCreateUdf_ofCatalog, bind_eq_error, toParameters_eq_error_iff soundInputs]
  simp only [map_eq_error, toParameters_eq_error_iff soundOutputs, toParameters_eq_ok_iff soundInputs]
  constructor
  · rintro (⟨rfl, definition, member, unnamed⟩ | ⟨-, -, rfl, definition, member, unnamed⟩)
    · exact ⟨rfl, definition, List.mem_append_left _ member, unnamed⟩
    · exact ⟨rfl, definition, List.mem_append_right _ member, unnamed⟩
  · rintro ⟨rfl, definition, member, unnamed⟩
    by_cases named : ∀ input ∈ declaration.inputs, input.name ≠ ""
    · -- all inputs are parameters, so the one without a name is an output
      refine .inr ⟨_, ⟨named, rfl⟩, rfl, definition, ?_, unnamed⟩
      exact (List.mem_append.mp member).resolve_left fun input => named definition input unnamed
    · push Not at named
      exact .inl ⟨rfl, named⟩

/-- A creation fails only by the names of its definitions, since what a text declares has sound types. A function
fails if a name is missing; a table fails at the first definition whose name is missing or that of an earlier one
but for case. A new table has its columns in the order of the definitions, and a scope of them loses none. -/
theorem creation_fails_by_names {sql : String} {statement : Statement} (read : ofText? sql = .ok statement) :
    let visited := (visit (.ofCatalog interface) statement).answer converting
    (∀ definition ∈ statement.definitions, definition.name ≠ "" → definition.check = .ok ()) ∧
    (∀ declaration, statement = .createUdf declaration → ∀ error,
      visited.1 = .error error ↔
        error = .bind .emptyColumnName ∧ ∃ definition ∈ statement.definitions, definition.name = "") ∧
    ∀ declaration, statement = .createTable declaration →
      let columns := declaration.columns.mapIdx columnAt
      (visited.1 = .ok () ↔ WellNamed declaration.columns) ∧
      (∀ error, visited.1 = .error error ↔
        ∃ before definition after, declaration.columns = before ++ definition :: after ∧
          WellNamed before ∧ definition.nameFault? (before.map key) = some error) ∧
      (visited.1 = .ok () →
        visited.2.conversion.plan =
          some (.leaf (.createTable declaration.table columns declaration.ifNotExists)) ∧
        (Scope.ofColumns columns).size = declaration.columns.length ∧
        (Scope.ofColumns columns).columnsInOrder = columns ∧
        ∀ enumeration, enumeration.Perm (Scope.ofColumns columns).entries →
          Scope.byPosition enumeration = columns) := by
  intro visited
  have sound := isSound_of_ofText? read
  refine ⟨fun definition member named => ?_, ?_, ?_⟩
  · rw [check_of_isSound (sound definition member), if_neg named]
  · rintro declaration rfl error
    exact visitCreateUdf_eq_error_iff interface converting sound
  · rintro declaration rfl columns
    have sound : ∀ definition ∈ declaration.columns, definition.type.IsSound := sound
    have answered : visited.1 = (fun _ => ()) <$> toColumns declaration.columns :=
      answer_visitCreateTable_ofCatalog interface converting declaration
    have succeeds : visited.1 = .ok () ↔ WellNamed declaration.columns := by
      rw [answered]
      simp [map_eq_ok, toColumns_eq_ok_iff sound]
    refine ⟨succeeds, fun error => ?_, fun success => ?_⟩
    · rw [answered, map_eq_error, toColumns_eq_error_iff sound]
    · have wellNamed := succeeds.mp success
      have declared : toColumns declaration.columns = .ok columns := (toColumns_eq_ok_iff sound).mpr ⟨wellNamed, rfl⟩
      have increasing := increasing_columnAt declaration.columns
      have all : Scope.unshadowed columns = columns := wellNamed.unshadowed_columnAt
      refine ⟨plan_visitCreateTable_ofCatalog interface converting declared, ?_, ?_, fun enumeration any => ?_⟩
      · rw [Scope.size_ofColumns, all, List.length_mapIdx]
      · rw [Scope.columnsInOrder_ofColumns increasing, all]
      · rw [Scope.byPosition_ofColumns increasing any, all]

/-- A table with an array, one with two columns that only case tells apart, and a function with an output that has
no name. -/
theorem creation_fails_by_names_frames :
    let id : ColumnDefinition := { name := "id", type := { base := .integer } }
    let data : ColumnDefinition :=
      { name := "data", nullable := false, type := { base := .ndArray, element := some .uint8 } }
    let again : ColumnDefinition := { name := "ID", type := { base := .float } }
    let label : ColumnDefinition := { name := "", type := { base := .text } }
    let table : TableRef := .ofName [⟨"Frames", none⟩]
    let function : UdfDeclaration :=
      { name := "Label", inputs := [id], outputs := [label], implementation := "label" }
    let visited := fun statement => (visit (.ofCatalog Catalog.interface) statement).answer { state := {} }
    (ofText? "CREATE TABLE Frames (id INTEGER, data NDARRAY UINT8 NOT NULL)" =
        .ok (.createTable { table, columns := [id, data] }) ∧
      (visited (.createTable { table, columns := [id, data] })).1 = .ok () ∧
      (Scope.ofColumns [id.columnAt 0, data.columnAt 1]).columnsInOrder = [id.columnAt 0, data.columnAt 1]) ∧
    (ofText? "CREATE TABLE Frames (id INTEGER, \"ID\" FLOAT)" = .ok (.createTable { table, columns := [id, again] }) ∧
      (visited (.createTable { table, columns := [id, again] })).1 = .error (.bind (.duplicateColumn "ID"))) ∧
    (ofText? "CREATE UDF Label INPUT (id INTEGER) OUTPUT (\"\" TEXT) IMPL 'label'" = .ok (.createUdf function) ∧
      (visited (.createUdf function)).1 = .error (.bind .emptyColumnName)) := by
  intro id data again label table function visited
  have word (value : String) (upper : Text.asciiUppercase value = value) :
      Declaration.asRead.word value (.word value none) := congrArg some upper
  have creates := word "CREATE" (by decide +kernel)
  have ofTable := word "TABLE" (by decide +kernel)
  have named : Declaration.TableName [.word "Frames" none] [⟨"Frames", none⟩] := .one ⟨_, rfl, rfl⟩
  have number : Declaration.asRead.Column [.word "id" none, .word "INTEGER" none] id :=
    .mk none (.scalar (word "INTEGER" (by decide +kernel)) rfl) .unsaid
  have array : Declaration.asRead.Column
      [.word "data" none, .word "NDARRAY" none, .word "UINT8" none, .word "NOT" none, .word "NULL" none] data :=
    .mk none (.array (word "NDARRAY" (by decide +kernel)) (word "UINT8" (by decide +kernel)) rfl)
      (.notNull (.cons (by decide +kernel) (.cons (by decide +kernel) .nil)))
  have float : Declaration.asRead.Column [.word "ID" (some '"'), .word "FLOAT" none] again :=
    .mk _ (.scalar (word "FLOAT" (by decide +kernel)) rfl) .unsaid
  have text : Declaration.asRead.Column [.word "" (some '"'), .word "TEXT" none] label :=
    .mk _ (.scalar (word "TEXT" (by decide +kernel)) rfl) .unsaid
  have path : Declaration.asRead.path (.string .plain "label") "label" := rfl
  have readGood : ofText? "CREATE TABLE Frames (id INTEGER, data NDARRAY UINT8 NOT NULL)" =
      .ok (.createTable { table, columns := [id, data] }) :=
    ofText?_of_derives (by decide +kernel)
      (.createTable creates ofTable .unsaid named ⟨_, rfl, .cons number (.one array)⟩)
  have readTwice : ofText? "CREATE TABLE Frames (id INTEGER, \"ID\" FLOAT)" =
      .ok (.createTable { table, columns := [id, again] }) :=
    ofText?_of_derives (by decide +kernel)
      (.createTable creates ofTable .unsaid named ⟨_, rfl, .cons number (.one float)⟩)
  have readUnnamed : ofText? "CREATE UDF Label INPUT (id INTEGER) OUTPUT (\"\" TEXT) IMPL 'label'" =
      .ok (.createUdf function) :=
    ofText?_of_derives (by decide +kernel)
      (.createUdf none creates (word "UDF" (by decide +kernel)) .unsaid (word "INPUT" (by decide +kernel))
        ⟨_, rfl, .one number⟩ (word "OUTPUT" (by decide +kernel)) ⟨_, rfl, .one text⟩ .unsaid
        (word "IMPL" (by decide +kernel)) path)
  have good := (creation_fails_by_names Catalog.interface { state := {} } readGood).2.2 _ rfl
  have bad := (creation_fails_by_names Catalog.interface { state := {} } readTwice).2.2 _ rfl
  have unnamed := (creation_fails_by_names Catalog.interface { state := {} } readUnnamed).2.1 _ rfl
  have succeeds := good.1.mpr ⟨by decide +kernel, by decide +kernel⟩
  refine ⟨⟨readGood, succeeds, (good.2.2 succeeds).2.2.1⟩, ⟨readTwice, ?_⟩, readUnnamed, ?_⟩
  · exact (bad.2.1 _).mpr ⟨[id], again, [], rfl, ⟨by decide +kernel, by decide +kernel⟩, by decide +kernel⟩
  · exact (unnamed _).mpr ⟨rfl, label, .tail _ (.head _), rfl⟩

end Statement

end VideoPlan
