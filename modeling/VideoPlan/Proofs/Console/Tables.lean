import VideoPlan.Proofs.Console.Run
import VideoPlan.Proofs.Session.Effect

/-!
# The tables of the console

The tables whose columns are offered for completion are a copy of what the catalog has, made anew behind every
submitted text. No two datasets have the same name in lower case, so none is lost in the copy (`mirrors_ofCatalog`),
and nothing else that the loop does changes the catalog: the copy is never out of date (`coherent_after`).

Main statement: `tables_mirror_catalog`.
-/

namespace VideoPlan

open Text

/-- What is kept for the completion of a dataset: its name in lower case, and the names of its columns. -/
def Dataset.table (dataset : Dataset) : String × List String :=
  (lowercase dataset.name, dataset.columnNames)

namespace Catalog

variable {catalog : Catalog}

/-- The names of datasets differ not only in case. -/
theorem WellFormed.tables_nodup (wellFormed : catalog.WellFormed) :
    ((catalog.datasets.map Dataset.table).map (·.1)).Nodup := by
  have keys : (catalog.datasets.map Dataset.table).map (·.1) = catalog.entries.map (·.1) := by
    rw [datasets, List.map_map, List.map_map]
    apply List.map_congr_left
    intro entry member
    exact (wellFormed.key_eq entry member).symm
  rw [keys]
  exact wellFormed.keys_nodup

/-- The datasets are found again by their names, in another order. -/
theorem WellFormed.perm_datasets (wellFormed : catalog.WellFormed) :
    (catalog.names.filterMap catalog.find?).Perm catalog.datasets := by
  have again : (catalog.datasets.map (·.name)).filterMap catalog.find? = catalog.datasets := by
    rw [List.filterMap_map]
    calc catalog.datasets.filterMap (catalog.find? ∘ (·.name))
      _ = catalog.datasets.filterMap some := List.filterMap_congr fun _ member => wellFormed.find?_name member
      _ = catalog.datasets := List.filterMap_some
  rw [← again]
  exact catalog.names_perm.filterMap catalog.find?

end Catalog

namespace Console

/-! ## The tables of a catalog -/

/-- The tables are those of the datasets, each of them once. -/
structure Mirrors (tables : Tables) (catalog : Catalog) : Prop where
  perm : tables.Perm (catalog.datasets.map Dataset.table)
  nodup : (tables.map (·.1)).Nodup

theorem register_eq {tables : Tables} {dataset : Dataset} (fresh : dataset.table.1 ∉ tables.map (·.1)) :
    tables.register dataset.name dataset.columnNames = dataset.table :: tables := by
  have kept : tables.filter (·.1 != lowercase dataset.name) = tables := by
    rw [List.filter_eq_self]
    intro entry member
    apply bne_iff_ne.mpr
    intro same
    exact fresh (List.mem_map.mpr ⟨entry, member, same⟩)
  unfold Tables.register
  rw [kept]
  rfl

/-- Registered tables replace no others if their names are new in lower case. -/
theorem foldl_register {datasets : List Dataset} {tables : Tables}
    (nodup : (tables.map (·.1) ++ (datasets.map Dataset.table).map (·.1)).Nodup) :
    datasets.foldl (fun tables dataset => tables.register dataset.name dataset.columnNames) tables =
      (datasets.map Dataset.table).reverse ++ tables := by
  induction datasets generalizing tables with
  | nil => rfl
  | cons dataset datasets ih =>
    rw [List.map_cons, List.map_cons, List.nodup_middle] at nodup
    -- the name is new both to the tables before and to the datasets behind
    have fresh : dataset.table.1 ∉ tables.map (·.1) := by
      intro member
      exact (List.nodup_cons.mp nodup).1 (List.mem_append_left _ member)
    have others : ((dataset.table :: tables).map (·.1) ++ (datasets.map Dataset.table).map (·.1)).Nodup := nodup
    rw [List.foldl_cons, register_eq fresh, ih others, List.map_cons, List.reverse_cons, List.append_assoc]
    rfl

theorem mirrors_ofCatalog {catalog : Catalog} (wellFormed : catalog.WellFormed) :
    Mirrors (.ofCatalog catalog) catalog := by
  have found := wellFormed.perm_datasets.map Dataset.table
  have nodup := (found.map (·.1)).nodup_iff.mpr wellFormed.tables_nodup
  have copied : Tables.ofCatalog catalog =
      ((catalog.names.filterMap catalog.find?).map Dataset.table).reverse := by
    have new : (([] : Tables).map (·.1) ++
        ((catalog.names.filterMap catalog.find?).map Dataset.table).map (·.1)).Nodup := nodup
    rw [Tables.ofCatalog, foldl_register new, List.append_nil]
  have perm : (Tables.ofCatalog catalog).Perm (catalog.datasets.map Dataset.table) := by
    rw [copied]
    exact (List.reverse_perm _).trans found
  exact ⟨perm, (perm.map (·.1)).nodup_iff.mpr wellFormed.tables_nodup⟩

/-- Looked up under any name, the tables give the columns of the dataset that has this name in lower case. -/
theorem Mirrors.lookup_eq_some_iff {tables : Tables} {catalog : Catalog} (mirrors : Mirrors tables catalog)
    (name : String) (columns : List String) :
    tables.lookup name = some columns ↔
      ∃ dataset ∈ catalog.datasets, lowercase dataset.name = name ∧ dataset.columnNames = columns := by
  rw [lookup_eq_some_iff_mem mirrors.nodup, mirrors.perm.mem_iff, List.mem_map]
  simp only [Dataset.table, Prod.mk.injEq]

/-! ## Steps of the loop -/

/-- The catalog of the state is one that calls reach, and the tables are those of the catalog. -/
structure Coherent (state : State) : Prop where
  reached : state.catalog.Reached
  tables_eq : state.tables = .ofCatalog state.catalog

variable {host : Host}

theorem reached_planAll (host : Host) {catalog : Catalog} (reached : catalog.Reached) (statements : List Statement) :
    (planAll host catalog statements).2.Reached := by
  induction statements generalizing catalog with
  | nil => exact reached
  | cons statement statements ih => exact ih (Session.reached_planStatement host reached statement)

theorem coherent_start {catalog : Catalog} (reached : catalog.Reached) : Coherent (.start catalog) :=
  ⟨reached, rfl⟩

/-- Whatever is gathered, the tables and the catalog are as they were. -/
theorem Coherent.gathering {state : State} (coherent : Coherent state) (gathered : String) :
    Coherent { state with gathered } :=
  ⟨coherent.reached, coherent.tables_eq⟩

/-- A text that cannot be read changes nothing; behind any other one the tables are made anew, whether or not its
statements were planned. -/
theorem Coherent.submit {state : State} (coherent : Coherent state) (host : Host) (sql : String) :
    Coherent (submit host sql state).2 := by
  unfold Console.submit
  split
  · exact coherent
  · exact ⟨reached_planAll host coherent.reached _, rfl⟩

theorem Coherent.step {state next : State} {input : Input} {outputs : List Output} (coherent : Coherent state)
    (taken : step host state input = .goOn outputs next) : Coherent next := by
  cases input with
  | interrupt =>
    obtain ⟨-, rfl⟩ := Step.goOn.inj taken
    exact coherent.gathering ""
  | line text =>
    cases asked : gather state.gathered text with
    | mk request gathered =>
      rw [Console.step, asked] at taken
      have gathering := coherent.gathering gathered
      cases request with
      | nothing =>
        obtain ⟨-, rfl⟩ := Step.goOn.inj taken
        exact gathering
      | command name =>
        dsimp only at taken
        cases ran : runCommand? state.catalog name with
        | none =>
          rw [ran] at taken
          cases taken
        | some written =>
          rw [ran] at taken
          obtain ⟨-, rfl⟩ := Step.goOn.inj taken
          exact gathering
      | submit sql =>
        obtain ⟨-, rfl⟩ := Step.goOn.inj taken
        exact gathering.submit host sql

theorem coherent_after {catalog : Catalog} (reached : catalog.Reached) {inputs : List Input} {state : State}
    (waits : after host (.start catalog) inputs = some state) : Coherent state :=
  after_induction Coherent.step (coherent_start reached) waits

/-- Whenever the loop waits for a line, whatever came in before, the tables for completion are those of the catalog:
one for each dataset and no other, under its name in lower case with the names of its columns in order. -/
theorem tables_mirror_catalog (host : Host) {catalog : Catalog} (reached : catalog.Reached) (inputs : List Input)
    {state : State} (waits : after host (.start catalog) inputs = some state) :
    state.tables.Perm (state.catalog.datasets.map fun dataset => (lowercase dataset.name, dataset.columnNames)) ∧
      (state.tables.map (·.1)).Nodup ∧
      ∀ name columns, state.tables.lookup name = some columns ↔
        ∃ dataset ∈ state.catalog.datasets, lowercase dataset.name = name ∧ dataset.columnNames = columns := by
  have coherent := coherent_after reached waits
  have mirrors : Mirrors state.tables state.catalog := by
    rw [coherent.tables_eq]
    exact mirrors_ofCatalog coherent.reached.wellFormed
  exact ⟨mirrors.perm, mirrors.nodup, mirrors.lookup_eq_some_iff⟩

/-- No loader is there for a video, so loading one fails when its dataset is created already: the columns of the
dataset are offered. -/
theorem tables_mirror_catalog_failedLoad :
    let host : Host := { loaders := .empty }
    let inputs : List Input := [.line "LOAD DATA INFILE 'a.mp4'", .line "INTO Clips;"]
    run host (.start .empty) inputs = [.report "Error: Invalid argument: Unknown name: video\n"] ∧
      ∃ state, Catalog.Reached .empty ∧ after host (.start .empty) inputs = some state ∧
        state.catalog.datasets.map (·.name) = ["Clips"] ∧ state.tables.lookup "clips" = some ["id", "data"] := by
  intro host inputs
  have report : run host (.start .empty) inputs =
      [.report "Error: Invalid argument: Unknown name: video\n"] := by decide +kernel
  have datasets : (after host (.start .empty) inputs).map (·.catalog.datasets.map fun dataset =>
      (dataset.name, dataset.table)) = some [("Clips", "clips", ["id", "data"])] := by decide +kernel
  obtain ⟨state, waits, one⟩ := Option.map_eq_some_iff.mp datasets
  obtain ⟨dataset, only, named⟩ := List.map_eq_singleton_iff.mp one
  obtain ⟨name, key, columns⟩ : dataset.name = "Clips" ∧ lowercase dataset.name = "clips" ∧
      dataset.columnNames = ["id", "data"] := by
    simpa [Dataset.table] using named
  obtain ⟨-, -, lookup⟩ := tables_mirror_catalog host .empty inputs waits
  have kept : dataset ∈ state.catalog.datasets := by
    rw [only]
    exact List.mem_singleton_self dataset
  refine ⟨report, state, .empty, waits, ?_, (lookup _ _).mpr ⟨dataset, kept, key, columns⟩⟩
  rw [only, List.map_singleton, name]

end Console

end VideoPlan
