import VideoPlan.Proofs.Session.Planning

/-!
# What has been planned stays planned

Catalogs only grow, and a plan depends on the catalog only through tables that were found. So a statement
that was planned once is planned in the same way ever after, whatever else the session does in between. A
file that is loaded into a new table takes another way the second time, but to the same dataset.

Main statement: `planStatement_stable`.
-/

namespace VideoPlan

open Converting (told)

namespace Session

/-! ## Operations of a session -/

/-- What is done in a session: planning, or creating datasets in its catalog. -/
inductive Operation
  | planStatement (statement : Statement)
  | planSql (sql : String)
  | create (descriptor : DatasetDescriptor)
  | register (name : String) (columns : List Column)
  | findOrCreate (descriptor : DatasetDescriptor)
  | createVideo (name : String)

/-- The catalog after an operation, whether or not it fails. -/
def Operation.after (host : Host) (catalog : Catalog) : Operation → Catalog
  | .planStatement statement =>
    ((Session.planStatement host Catalog.interface statement).answer catalog).2
  | .planSql sql => ((Session.planSql host Catalog.interface sql).answer catalog).2
  | .create descriptor => ((Catalog.create descriptor).answer catalog).2
  | .register name columns => ((Catalog.register name columns).answer catalog).2
  | .findOrCreate descriptor => ((Catalog.findOrCreate descriptor).answer catalog).2
  | .createVideo name => ((Binder.createVideoIn Catalog.interface name).answer catalog).2

/-- The catalog after the operations, one after the other. -/
def Operation.afterAll (host : Host) (catalog : Catalog) (operations : List Operation) : Catalog :=
  operations.foldl (after host) catalog

/-! ## The catalog grows -/

/-- Planning a statement keeps every dataset. -/
theorem extends_told (statement : Statement) (catalog : Catalog) :
    catalog.Extends (told (.ofCatalog Catalog.interface) (.ofStatement statement) catalog).2 := by
  by_cases file : ∃ load, statement = .loadData load
  · obtain ⟨load, rfl⟩ := file
    unfold Dialogue.ofStatement
    rw [Catalog.told_ofLoadData]
    cases catalog.find? load.table.table with
    | some dataset => exact .refl catalog
    | none =>
      have grows := Catalog.extends_findOrCreate (.video load.table.table) catalog
      rcases answered : (Catalog.findOrCreate (.video load.table.table)).answer catalog
        with ⟨_ | dataset, after⟩ <;> rw [answered] at grows <;> exact grows
  · have steady := Dialogue.steady_ofStatement fun load same => file ⟨load, same⟩
    rw [steady.told_snd]
    exact .refl catalog

theorem extends_planStatement (host : Host) (statement : Statement) (catalog : Catalog) :
    catalog.Extends ((planStatement host Catalog.interface statement).answer catalog).2 := by
  rw [answer_planStatement]
  exact extends_told statement catalog

/-- One operation keeps every dataset. -/
theorem Operation.extends_after (host : Host) (catalog : Catalog) (operation : Operation) :
    catalog.Extends (operation.after host catalog) := by
  cases operation with
  | planStatement statement => exact extends_planStatement host statement catalog
  | planSql sql =>
    show catalog.Extends ((Session.planSql host Catalog.interface sql).answer catalog).2
    rw [answer_planSql_snd]
    split
    · exact extends_planStatement host _ catalog
    · exact .refl catalog
  | create descriptor => exact Catalog.extends_create descriptor catalog
  | register name columns => exact Catalog.extends_create (.named name columns) catalog
  | findOrCreate descriptor => exact Catalog.extends_findOrCreate descriptor catalog
  | createVideo name =>
    show catalog.Extends (((Binder.ofCatalog Catalog.interface).createVideo name).answer catalog).2
    rw [Catalog.answer_createVideo]
    exact Catalog.extends_findOrCreate (.video name) catalog

/-- Any number of operations keep every dataset. -/
theorem Operation.extends_afterAll (host : Host) (catalog : Catalog) (operations : List Operation) :
    catalog.Extends (afterAll host catalog operations) := by
  induction operations generalizing catalog with
  | nil => exact .refl catalog
  | cons operation operations ih =>
    exact (operation.extends_after host catalog).trans (ih (operation.after host catalog))

/-! ## The same plan later -/

/-- A file that was planned has its dataset in the catalog from then on. -/
theorem find?_of_told_ofLoadData {load : LoadStatement} {catalog : Catalog} {plan : Option Plan}
    (succeeds : (told (.ofCatalog Catalog.interface) (.ofLoadData load) catalog).1 = .ok plan) :
    ∃ dataset, plan = some (.leaf (.loadData dataset load.path)) ∧
      (told (.ofCatalog Catalog.interface) (.ofLoadData load) catalog).2.find? load.table.table =
        some dataset := by
  rw [Catalog.told_ofLoadData] at succeeds ⊢
  cases found : catalog.find? load.table.table with
  | some dataset =>
    rw [found] at succeeds
    cases succeeds
    exact ⟨dataset, rfl, found⟩
  | none =>
    rw [found] at succeeds
    rcases answered : (Catalog.findOrCreate (.video load.table.table)).answer catalog
      with ⟨_ | dataset, after⟩ <;> rw [answered] at succeeds <;> cases succeeds
    have kept : after.find? load.table.table = some dataset :=
      Catalog.find?_of_findOrCreate (.video load.table.table) answered
    exact ⟨dataset, rfl, kept⟩

/-- The dialogue about a statement that succeeded once comes to the same plan in every later catalog. -/
theorem told_stable {statement : Statement} {catalog later : Catalog} {plan : Option Plan}
    (succeeds :
      (told (.ofCatalog Catalog.interface) (.ofStatement statement) catalog).1 = .ok plan)
    (grown : Catalog.Extends
      (told (.ofCatalog Catalog.interface) (.ofStatement statement) catalog).2 later) :
    (told (.ofCatalog Catalog.interface) (.ofStatement statement) later).1 = .ok plan := by
  by_cases file : ∃ load, statement = .loadData load
  · obtain ⟨load, rfl⟩ := file
    obtain ⟨dataset, rfl, found⟩ := find?_of_told_ofLoadData succeeds
    -- whichever way was taken before, the table is found now
    unfold Dialogue.ofStatement
    rw [Catalog.told_ofLoadData, grown load.table.table dataset found]
  · have steady := Dialogue.steady_ofStatement fun load same => file ⟨load, same⟩
    rw [steady.told_snd] at grown
    exact steady.told_of_finds Catalog.interface catalog grown succeeds

/-! ## Main statement -/

/-- A statement that was planned once, over any catalog, is planned after any further operations of the
session with the same plan, the same loader and the same choice of processor. -/
theorem planStatement_stable (host : Host) (catalog : Catalog) (statement : Statement)
    {planned : PlannedStatement} (operations : List Operation)
    (succeeds : ((planStatement host Catalog.interface statement).answer catalog).1 =
      .ok planned) :
    let after := ((planStatement host Catalog.interface statement).answer catalog).2
    ((planStatement host Catalog.interface statement).answer
      (Operation.afterAll host after operations)).1 = .ok planned := by
  intro after
  have grown := Operation.extends_afterAll host after operations
  rw [answer_planStatement] at succeeds ⊢
  obtain ⟨plan, told_plan, finished⟩ := bind_eq_ok.mp succeeds
  have same : after = (told (.ofCatalog Catalog.interface) (.ofStatement statement) catalog).2 :=
    congrArg Prod.snd (answer_planStatement host Catalog.interface statement catalog)
  rw [same] at grown
  exact bind_eq_ok.mpr ⟨plan, told_stable told_plan (same ▸ grown), finished⟩

/-- A file is loaded into a new table. After the table has been queried, an attempt to create it and two
other files, the same file is planned as before. -/
theorem planStatement_stable_newTable :
    let file : Statement := .loadData { table := { table := "MyVideo" }, path := "traffic.mp4" }
    let after := ((planStatement {} Catalog.interface file).answer .empty).2
    ∃ planned, ((planStatement {} Catalog.interface file).answer .empty).1 = .ok planned ∧
      ((planStatement {} Catalog.interface file).answer (Operation.afterAll {} after
        [.planSql "SELECT id FROM MyVideo", .register "MYVIDEO" [],
          .planStatement (.loadData { table := { table := "Labels" }, path := "labels.csv" }),
          .createVideo "Other"])).1 = .ok planned :=
  ⟨_, rfl, planStatement_stable {} .empty _ _ rfl⟩

end Session

end VideoPlan
