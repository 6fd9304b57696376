import VideoPlan.Proofs.Catalog.WellFormed
import VideoPlan.Proofs.Session.Stability

/-!
# What planning does to the catalog

Planning reads the catalog, with one exception: a file that goes into a table which is not there creates it
as a video. This comes before the loader of the file is looked for, and it is not taken back if there is
none.

* `Operation.reached_afterAll`: a session stays within the catalogs that calls reach;
* `planStatement_effect`: what planning a statement adds, and that it is added once;
* `failed_request_effect`: what a request that fails leaves behind.
-/

namespace VideoPlan

open Text
open Converting (told)

/-- The video of a name, after so many datasets with so many columns: it lies under its own name and has the
number of a frame and its picture. -/
def Dataset.newVideo (datasets columns : Nat) (name : String) : Dataset where
  id := datasets + 1
  name := name
  fileUrl := name
  identifierColumn := "id"
  isVideo := true
  columns :=
    [{ id := columns + 1, name := "id", type := { base := .integer }, nullable := false, index := 0,
       datasetId := some (datasets + 1) },
     { id := columns + 2, name := "data",
       type := { base := .ndArray, element := some .uint8, dimensions := [none, none, none] },
       nullable := true, index := 1, datasetId := some (datasets + 1) }]

namespace Catalog

/-- A name that differs in more than case finds what it found before. -/
theorem find?_add_of_ne (catalog : Catalog) {descriptor : DatasetDescriptor} {name : String}
    (differs : lowercase name ≠ lowercase descriptor.name) :
    (catalog.add descriptor).find? name = catalog.find? name := by
  rw [find?_add, if_neg differs, Option.or_none]

/-- The video that a catalog makes of a name, by what the catalog holds. -/
theorem WellFormed.materialize_video {catalog : Catalog} (wellFormed : catalog.WellFormed)
    {name : String} (named : name ≠ "") :
    catalog.materialize (.video name) = .newVideo catalog.size catalog.columns.length name := by
  have given : name.isEmpty = false := by simpa using named
  unfold materialize
  rw [wellFormed.lastDatasetId_eq, wellFormed.lastColumnId_eq]
  simp [DatasetDescriptor.video, DatasetDescriptor.named, videoColumns, placeColumns,
    Dataset.newVideo, given]

/-- The catalog with a video, by what it held before. -/
theorem WellFormed.add_video {catalog : Catalog} (wellFormed : catalog.WellFormed) {name : String}
    (named : name ≠ "") :
    catalog.add (.video name) =
      { entries := catalog.entries ++
          [(lowercase name, .newVideo catalog.size catalog.columns.length name)]
        lastDatasetId := catalog.size + 1
        lastColumnId := catalog.columns.length + 2 } := by
  unfold Catalog.add
  rw [wellFormed.materialize_video named, wellFormed.lastDatasetId_eq, wellFormed.lastColumnId_eq]
  rfl

end Catalog

/-! ## Files that go into new tables -/

namespace LoadStatement

/-- The table of the file has a name, and no dataset of the catalog has this name but for case. -/
def IntoNewTable (load : LoadStatement) (catalog : Catalog) : Prop :=
  load.table.table ≠ "" ∧
    ∀ dataset ∈ catalog.datasets, lowercase dataset.name ≠ lowercase load.table.table

variable {catalog : Catalog} (wellFormed : catalog.WellFormed) {load : LoadStatement}

include wellFormed

theorem IntoNewTable.find?_eq_none (new : load.IntoNewTable catalog) :
    catalog.find? load.table.table = none :=
  (wellFormed.find?_eq_none_iff load.table.table).mpr new.2

/-- The new table is created as a video. -/
theorem IntoNewTable.answer_findOrCreate (new : load.IntoNewTable catalog) :
    (Catalog.findOrCreate (.video load.table.table)).answer catalog =
      (.ok (.newVideo catalog.size catalog.columns.length load.table.table),
        catalog.add (.video load.table.table)) := by
  have missing : catalog.find? (DatasetDescriptor.video load.table.table).name = none :=
    new.find?_eq_none wellFormed
  have named : ¬ (DatasetDescriptor.video load.table.table).name.isEmpty :=
    fun empty => new.1 (String.isEmpty_iff.mp empty)
  rw [Catalog.answer_findOrCreate, if_neg named, missing, ← wellFormed.materialize_video new.1]

theorem IntoNewTable.told_eq (new : load.IntoNewTable catalog) :
    told (.ofCatalog Catalog.interface) (.ofLoadData load) catalog =
      (.ok (some (.leaf (.loadData
        (.newVideo catalog.size catalog.columns.length load.table.table) load.path))),
        catalog.add (.video load.table.table)) := by
  rw [Catalog.told_ofLoadData, new.find?_eq_none wellFormed]
  dsimp only
  rw [new.answer_findOrCreate wellFormed]

/-- Any other table is there already, or it has no name. -/
theorem told_snd_of_not_intoNewTable (notNew : ¬ load.IntoNewTable catalog) :
    (told (.ofCatalog Catalog.interface) (.ofLoadData load) catalog).2 = catalog := by
  rw [Catalog.told_ofLoadData]
  cases found : catalog.find? load.table.table with
  | some dataset => rfl
  | none =>
    have unnamed : load.table.table = "" := by
      have noOther := (wellFormed.find?_eq_none_iff load.table.table).mp found
      exact Decidable.byContradiction fun named => notNew ⟨named, noOther⟩
    have refused : (DatasetDescriptor.video "").name.isEmpty := rfl
    dsimp only
    rw [unnamed, Catalog.answer_findOrCreate, if_pos refused]

end LoadStatement

namespace Session

/-- Any statement but a file that goes into a new table leaves the catalog as it was, whether or not it is
planned. -/
theorem unchanged_of_not_intoNewTable (host : Host) {catalog : Catalog}
    (wellFormed : catalog.WellFormed) {statement : Statement}
    (noFile : ∀ load, statement = .loadData load → ¬ load.IntoNewTable catalog) :
    ((planStatement host Catalog.interface statement).answer catalog).2 = catalog := by
  rw [answer_planStatement]
  by_cases file : ∃ load, statement = .loadData load
  · obtain ⟨load, rfl⟩ := file
    exact load.told_snd_of_not_intoNewTable wellFormed (noFile load rfl)
  · -- the dialogue about any other statement asks for nothing but names
    have steady := Dialogue.steady_ofStatement fun load same => file ⟨load, same⟩
    exact steady.told_snd Catalog.interface catalog

/-- What becomes of a file whose dataset is known: only its loader may be missing. -/
def planFile (host : Host) (dataset : Dataset) (path : String) : Except Error PlannedStatement :=
  match host.loaders.find? (Operator.loaderName path) with
  | some loader =>
    .ok { plan := .leaf (.loadData dataset path), loader := some loader, useGpu := false }
  | none => .error (.unknownName (Operator.loaderName path))

theorem planFile_eq_error {host : Host} {dataset : Dataset} {path : String} {error : Error} :
    planFile host dataset path = .error error ↔
      host.loaders.find? (Operator.loaderName path) = none ∧
        error = .unknownName (Operator.loaderName path) := by
  unfold planFile
  cases host.loaders.find? (Operator.loaderName path) with
  | none => simp [eq_comm]
  | some loader => simp

theorem finish_loadData (host : Host) (statement : Statement) (dataset : Dataset) (path : String) :
    finish host statement (some (.leaf (.loadData dataset path))) = planFile host dataset path := by
  have noCall : (Plan.leaf (.loadData dataset path)).invokesFunction = false := rfl
  have needed : loaderFor host (.leaf (.loadData dataset path)) =
      some <$> host.loaders.create (Operator.loaderName path) := rfl
  unfold finish planFile
  dsimp only
  rw [noCall, needed, Registry.create, Bool.and_false]
  cases host.loaders.find? (Operator.loaderName path) <;> rfl

/-- A file that goes into a new table creates it as a video; after that its loader is looked for. -/
theorem answer_planStatement_of_intoNewTable (host : Host) {catalog : Catalog}
    (wellFormed : catalog.WellFormed) {load : LoadStatement} (new : load.IntoNewTable catalog) :
    (planStatement host Catalog.interface (.loadData load)).answer catalog =
      (planFile host (.newVideo catalog.size catalog.columns.length load.table.table) load.path,
        catalog.add (.video load.table.table)) := by
  have conversed := new.told_eq wellFormed
  rw [answer_planStatement]
  unfold Dialogue.ofStatement
  rw [conversed, ← finish_loadData host (.loadData load)]
  rfl

/-- A file that goes into a table which is there is planned for it. -/
theorem answer_of_find? (host : Host) {catalog : Catalog} {load : LoadStatement} {dataset : Dataset}
    (found : catalog.find? load.table.table = some dataset) :
    (convert Catalog.interface (.loadData load)).answer catalog =
        (.ok (some (.leaf (.loadData dataset load.path))), catalog) ∧
      (planStatement host Catalog.interface (.loadData load)).answer catalog =
        (planFile host dataset load.path, catalog) := by
  have conversed := Catalog.told_ofLoadData load catalog
  rw [found] at conversed
  rw [answer_convert, answer_planStatement]
  unfold Dialogue.ofStatement
  rw [conversed, ← finish_loadData host (.loadData load)]
  exact ⟨rfl, rfl⟩

/-! ## The catalogs of a session

Planning leads to no catalog that calls do not lead to. So whatever holds of all catalogs that are reached
holds all through a session. -/

theorem reached_of_discard {catalog : Catalog} (reached : catalog.Reached) (call : Catalog.Call)
    {action : Action Catalog α} (performs : call.perform = discard action) :
    (action.answer catalog).2.Reached := by
  have called := reached.call call
  unfold Catalog.Call.outcome at called
  rw [performs, Action.answer_discard] at called
  exact called

/-- A planned statement leaves the catalog as it was or as creating a video leaves it. -/
theorem reached_planStatement (host : Host) {catalog : Catalog} (reached : catalog.Reached)
    (statement : Statement) :
    ((planStatement host Catalog.interface statement).answer catalog).2.Reached := by
  have wellFormed := reached.wellFormed
  by_cases file : ∃ load, statement = .loadData load ∧ load.IntoNewTable catalog
  · obtain ⟨load, rfl, new⟩ := file
    have video := reached_of_discard reached (.createVideo load.table.table) rfl
    rw [Catalog.answer_createVideo, new.answer_findOrCreate wellFormed] at video
    rw [answer_planStatement_of_intoNewTable host wellFormed new]
    exact video
  · have noFile : ∀ load, statement = .loadData load → ¬ load.IntoNewTable catalog :=
      fun load same new => file ⟨load, same, new⟩
    rw [unchanged_of_not_intoNewTable host wellFormed noFile]
    exact reached

theorem Operation.reached_after (host : Host) {catalog : Catalog} (reached : catalog.Reached)
    (operation : Operation) : (operation.after host catalog).Reached := by
  cases operation with
  | planStatement statement => exact reached_planStatement host reached statement
  | planSql sql =>
    show ((Session.planSql host Catalog.interface sql).answer catalog).2.Reached
    rw [answer_planSql_snd]
    split
    · exact reached_planStatement host reached _
    · exact reached
  | create descriptor => exact reached_of_discard reached (.create descriptor) rfl
  | register name columns => exact reached_of_discard reached (.register name columns) rfl
  | findOrCreate descriptor => exact reached_of_discard reached (.findOrCreate descriptor) rfl
  | createVideo name => exact reached_of_discard reached (.createVideo name) rfl

/-- Whatever a session does, its catalog is one that calls reach. -/
theorem Operation.reached_afterAll (host : Host) {catalog : Catalog} (reached : catalog.Reached)
    (operations : List Operation) : (afterAll host catalog operations).Reached := by
  induction operations generalizing catalog with
  | nil => exact reached
  | cons operation operations ih => exact ih (operation.reached_after host reached)

/-! ## The effect of planning -/

/-- Planning changes a catalog only if a file goes into a new table. Then the catalog has one more dataset,
the video of the name as it is written, with the identifiers that come next; whatever other name finds,
it still finds. And from then on, whatever else the session does, a file that goes into a table of this
name, in any case, is planned for this video and changes nothing. -/
theorem planStatement_effect (host : Host) {catalog : Catalog} (reached : catalog.Reached)
    (statement : Statement) :
    let after := ((planStatement host Catalog.interface statement).answer catalog).2
    ((∀ load, statement = .loadData load → ¬ load.IntoNewTable catalog) → after = catalog) ∧
    ∀ load, statement = .loadData load → load.IntoNewTable catalog →
      let video := Dataset.newVideo catalog.size catalog.columns.length load.table.table
      after =
        { entries := catalog.entries ++ [(lowercase load.table.table, video)]
          lastDatasetId := catalog.size + 1
          lastColumnId := catalog.columns.length + 2 } ∧
      (∀ name, lowercase name ≠ lowercase load.table.table →
        after.find? name = catalog.find? name) ∧
      ∀ (operations : List Operation) (again : LoadStatement),
        lowercase again.table.table = lowercase load.table.table →
        let later := Operation.afterAll host after operations
        (convert Catalog.interface (.loadData again)).answer later =
            (.ok (some (.leaf (.loadData video again.path))), later) ∧
          (planStatement host Catalog.interface (.loadData again)).answer later =
            (planFile host video again.path, later) := by
  have wellFormed := reached.wellFormed
  intro after
  refine ⟨unchanged_of_not_intoNewTable host wellFormed, ?_⟩
  rintro load rfl new video
  have created : after = catalog.add (.video load.table.table) :=
    congrArg Prod.snd (answer_planStatement_of_intoNewTable host wellFormed new)
  refine ⟨created.trans (wellFormed.add_video new.1), ?_, ?_⟩
  · intro name differs
    rw [created]
    exact catalog.find?_add_of_ne differs
  · intro operations again same later
    have answered := new.answer_findOrCreate wellFormed
    have found : after.find? load.table.table = some video := by
      rw [created]
      exact Catalog.find?_of_findOrCreate (.video load.table.table) answered
    -- the catalog only grows, so the video is found in every later one
    have kept := Operation.extends_afterAll host after operations _ _ found
    rw [← Catalog.find?_congr _ same] at kept
    exact answer_of_find? host kept

/-- Beside a table of labels a video is created. After a query, an attempt to create it and another file, it
is the video for its name in capitals too. -/
theorem planStatement_effect_capitals :
    let catalog := ((Catalog.Call.register "Labels" [{ name := "label", type := { base := .text } }]).outcome
      .empty).2
    let load : LoadStatement := { table := { table := "Vidéo" }, path := "traffic.mp4" }
    let after := ((planStatement {} Catalog.interface (.loadData load)).answer catalog).2
    let operations : List Operation :=
      [.planSql "SELECT id FROM vidéo", .register "VIDÉO" [],
        .planStatement (.loadData { table := { table := "Other" }, path := "other.mp4" })]
    let later := Operation.afterAll {} after operations
    let again : LoadStatement := { table := { table := "VIDÉO" }, path := "boxes.csv" }
    let video := Dataset.newVideo catalog.size catalog.columns.length load.table.table
    (catalog.Reached ∧ load.IntoNewTable catalog) ∧
    after.datasets.map Dataset.label = ["Labels#1", "Vidéo#2"] ∧
    (planStatement {} Catalog.interface (.loadData again)).answer later =
      (planFile {} video again.path, later) := by
  intro catalog load after operations later again video
  have reached : catalog.Reached := Catalog.Reached.empty.call _
  have new : load.IntoNewTable catalog := by
    unfold LoadStatement.IntoNewTable
    decide +kernel
  have same : Text.lowercase again.table.table = Text.lowercase load.table.table := by decide +kernel
  have labels : after.datasets.map Dataset.label = ["Labels#1", "Vidéo#2"] := by decide +kernel
  obtain ⟨-, effect⟩ := planStatement_effect {} reached (.loadData load)
  obtain ⟨-, -, repeated⟩ := effect load rfl new
  obtain ⟨-, planned⟩ := repeated operations again same
  exact ⟨⟨reached, new⟩, labels, planned⟩

/-! ## Failures -/

/-- What can be asked of a session: to plan a statement, or the only statement of a text. -/
inductive Request
  | parsed (statement : Statement)
  | sql (text : String)

/-- The statement that is to be planned, if the request has one. -/
def Request.statement? : Request → Except Error Statement
  | .parsed statement => .ok statement
  | .sql text => Statement.ofText? text

/-- Plans what is asked for. -/
def Request.plan (host : Host) : Request → Action Catalog PlannedStatement
  | .parsed statement => planStatement host Catalog.interface statement
  | .sql text => planSql host Catalog.interface text

theorem Request.answer_plan (host : Host) (request : Request) (catalog : Catalog) :
    (request.plan host).answer catalog =
      match request.statement? with
      | .ok statement => (planStatement host Catalog.interface statement).answer catalog
      | .error error => (.error error, catalog) := by
  cases request with
  | parsed statement => rfl
  | sql text =>
    unfold plan statement? planSql
    dsimp only
    rw [Action.answer_bind, Action.answer_ofExcept]
    cases Statement.ofText? text <;> rfl

/-- A file for which there is no loader is refused after its table has been created. -/
theorem video_outlives_failure :
    let file : Statement := .loadData { table := { table := "MyVideo" }, path := "a.mp4" }
    let outcome := (planStatement { loaders := .empty } Catalog.interface file).answer .empty
    outcome.1 = .error (.unknownName "video") ∧ outcome.2.datasets ≠ Catalog.empty.datasets :=
  ⟨rfl, by decide +kernel⟩

/-- A request that fails leaves the catalog as it was, unless it is for a file that goes into a new table.
Such a request fails only for want of a loader, and then the catalog holds the video of the table beside
the datasets that it held before. -/
theorem failed_request_effect (host : Host) {catalog : Catalog} (reached : catalog.Reached)
    (request : Request) {error : Error}
    (failed : ((request.plan host).answer catalog).1 = .error error) :
    let after := ((request.plan host).answer catalog).2
    ((∀ load, request.statement? = .ok (.loadData load) → ¬ load.IntoNewTable catalog) →
      after = catalog) ∧
    ∀ load, request.statement? = .ok (.loadData load) → load.IntoNewTable catalog →
      error = .unknownName (Operator.loaderName load.path) ∧
      host.loaders.contains (Operator.loaderName load.path) = false ∧
      after.datasets = catalog.datasets ++
        [.newVideo catalog.size catalog.columns.length load.table.table] := by
  have wellFormed := reached.wellFormed
  rw [request.answer_plan] at failed ⊢
  cases asked : request.statement? with
  | error fault => exact ⟨fun _ => rfl, fun _ isFile => by cases isFile⟩
  | ok statement =>
    rw [asked] at failed
    dsimp only at failed ⊢
    refine ⟨fun noFile => ?_, fun load isFile new => ?_⟩
    · exact unchanged_of_not_intoNewTable host wellFormed fun load same =>
        noFile load (congrArg Except.ok same)
    · cases isFile
      have answered := answer_planStatement_of_intoNewTable host wellFormed new
      rw [answered] at failed ⊢
      obtain ⟨missing, rfl⟩ := planFile_eq_error.mp failed
      refine ⟨rfl, ?_, ?_⟩
      · rw [Registry.contains, missing]
        rfl
      · rw [Catalog.datasets_add, wellFormed.materialize_video new.1]

/-- A catalog of labels keeps the video that could not be read, with the number that comes next. -/
theorem failed_request_effect_labels :
    let catalog := ((Catalog.Call.register "Labels" [{ name := "label", type := { base := .text } }]).outcome
      .empty).2
    let load : LoadStatement := { table := { table := "MyVideo" }, path := "a.mp4" }
    let outcome := ((Request.parsed (.loadData load)).plan { loaders := .empty }).answer catalog
    (catalog.Reached ∧ load.IntoNewTable catalog) ∧
    outcome.1 = .error (.unknownName "video") ∧
    outcome.2.datasets = catalog.datasets ++ [.newVideo 1 1 "MyVideo"] := by
  intro catalog load outcome
  have reached : catalog.Reached := Catalog.Reached.empty.call _
  have new : load.IntoNewTable catalog := by
    unfold LoadStatement.IntoNewTable
    decide +kernel
  have answered := answer_planStatement_of_intoNewTable { loaders := .empty } reached.wellFormed new
  have needed : Operator.loaderName load.path = "video" := by decide +kernel
  have refused : planFile { loaders := .empty } (.newVideo catalog.size catalog.columns.length
      load.table.table) load.path = .error (.unknownName "video") :=
    planFile_eq_error.mpr ⟨rfl, congrArg Error.unknownName needed.symm⟩
  have failed : outcome.1 = .error (.unknownName "video") := (congrArg Prod.fst answered).trans refused
  obtain ⟨-, effect⟩ := failed_request_effect { loaders := .empty } reached _ failed
  obtain ⟨-, -, created⟩ := effect load rfl new
  exact ⟨⟨reached, new⟩, failed, created⟩

end Session

end VideoPlan
