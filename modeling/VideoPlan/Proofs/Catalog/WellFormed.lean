import Mathlib.Data.List.Nodup
import VideoPlan.Catalog.File
import VideoPlan.Proofs.Catalog.Extension
import VideoPlan.Proofs.Entries

/-!
# Well-formed catalogs

A catalog is reached by calls that fill it: one dataset at a time, or a whole file at once. Each call adds
fresh datasets or leaves everything as it was, so three things that are kept apart stay in step: the
datasets under their keys, the count of datasets and the count of columns.

* `WellFormed.add`: a fresh dataset keeps a catalog well-formed;
* `Call.outcome_cases`: what a call can do;
* `reached_wellFormed`: the main statement, about every catalog that is reached.
-/

namespace VideoPlan

open Text

namespace Catalog

/-- The columns of all datasets, in the order of their creation. -/
def columns (catalog : Catalog) : List Column :=
  catalog.datasets.flatMap (·.columns)

/-- Datasets lie under their names in lower case, one under each; they and their columns are counted from
one in the order of their creation, and every column knows its place. -/
structure WellFormed (catalog : Catalog) : Prop where
  key_eq : ∀ entry ∈ catalog.entries, entry.1 = lowercase entry.2.name
  keys_nodup : (catalog.entries.map (·.1)).Nodup
  name_ne : ∀ dataset ∈ catalog.datasets, dataset.name ≠ ""
  fileUrl_ne : ∀ dataset ∈ catalog.datasets, dataset.fileUrl ≠ ""
  ids_eq : catalog.datasets.map (·.id) = List.range' 1 catalog.size
  columnIds_eq : catalog.columns.map (·.id) = List.range' 1 catalog.columns.length
  indices_eq : ∀ dataset ∈ catalog.datasets,
    dataset.columns.map (·.index) = List.range dataset.columns.length
  datasetId_eq : ∀ dataset ∈ catalog.datasets, ∀ column ∈ dataset.columns,
    column.datasetId = some dataset.id
  lastDatasetId_eq : catalog.lastDatasetId = catalog.size
  lastColumnId_eq : catalog.lastColumnId = catalog.columns.length

/-! ## Placing columns

Whatever identifier, position and dataset a column comes with, these are given anew. -/

@[simp] theorem length_placeColumns (datasetId lastId index : Nat) (columns : List Column) :
    (placeColumns datasetId lastId index columns).length = columns.length := by
  induction columns generalizing lastId index with
  | nil => rfl
  | cons column columns ih => simp [placeColumns, ih]

theorem map_id_placeColumns (datasetId lastId index : Nat) (columns : List Column) :
    (placeColumns datasetId lastId index columns).map (·.id) =
      List.range' (lastId + 1) columns.length := by
  induction columns generalizing lastId index with
  | nil => rfl
  | cons column columns ih => simp [placeColumns, ih, List.range'_succ]

theorem map_index_placeColumns (datasetId lastId index : Nat) (columns : List Column) :
    (placeColumns datasetId lastId index columns).map (·.index) =
      List.range' index columns.length := by
  induction columns generalizing lastId index with
  | nil => rfl
  | cons column columns ih => simp [placeColumns, ih, List.range'_succ]

theorem datasetId_of_mem_placeColumns {datasetId lastId index : Nat} {columns : List Column}
    {column : Column} (member : column ∈ placeColumns datasetId lastId index columns) :
    column.datasetId = some datasetId := by
  induction columns generalizing lastId index with
  | nil => cases member
  | cons first columns ih =>
    rcases List.mem_cons.mp member with equal | member
    · rw [equal]
    · exact ih member

/-! ## Adding a dataset -/

theorem datasets_add (catalog : Catalog) (descriptor : DatasetDescriptor) :
    (catalog.add descriptor).datasets = catalog.datasets ++ [catalog.materialize descriptor] :=
  List.map_append

theorem columns_add (catalog : Catalog) (descriptor : DatasetDescriptor) :
    (catalog.add descriptor).columns =
      catalog.columns ++ (catalog.materialize descriptor).columns := by
  simp [columns, datasets_add]

theorem size_add (catalog : Catalog) (descriptor : DatasetDescriptor) :
    (catalog.add descriptor).size = catalog.size + 1 :=
  List.length_append

/-- What holds of the datasets before and of the new one holds of all datasets. -/
theorem forall_mem_datasets_add {catalog : Catalog} {descriptor : DatasetDescriptor}
    {property : Dataset → Prop} (old : ∀ dataset ∈ catalog.datasets, property dataset)
    (new : property (catalog.materialize descriptor)) :
    ∀ dataset ∈ (catalog.add descriptor).datasets, property dataset := by
  intro dataset member
  rw [datasets_add] at member
  rcases List.mem_append.mp member with member | member
  · exact old dataset member
  · rw [List.mem_singleton.mp member]
    exact new

/-- A dataset lies somewhere unless it has no name. -/
theorem fileUrl_materialize_ne (catalog : Catalog) {descriptor : DatasetDescriptor}
    (named : descriptor.name ≠ "") : (catalog.materialize descriptor).fileUrl ≠ "" := by
  unfold materialize
  dsimp only
  split
  · exact named
  · rename_i given
    exact fun empty => given (String.isEmpty_iff.mpr empty)

theorem wellFormed_empty : WellFormed .empty where
  key_eq := fun _ member => by cases member
  keys_nodup := List.nodup_nil
  name_ne := fun _ member => by cases member
  fileUrl_ne := fun _ member => by cases member
  ids_eq := rfl
  columnIds_eq := rfl
  indices_eq := fun _ member => by cases member
  datasetId_eq := fun _ member => by cases member
  lastDatasetId_eq := rfl
  lastColumnId_eq := rfl

/-- A dataset with a name that no other one has keeps the catalog well-formed. -/
theorem WellFormed.add {catalog : Catalog} (wellFormed : catalog.WellFormed)
    {descriptor : DatasetDescriptor} (named : descriptor.name ≠ "")
    (missing : catalog.find? descriptor.name = none) : (catalog.add descriptor).WellFormed where
  key_eq := by
    intro entry member
    rcases List.mem_append.mp member with member | member
    · exact wellFormed.key_eq entry member
    · rw [List.mem_singleton.mp member]
      rfl
  keys_nodup := by
    -- an entry under the new key would have been found
    have fresh : lowercase descriptor.name ∉ catalog.entries.map (·.1) := by
      intro member
      obtain ⟨entry, member, equal⟩ := List.mem_map.mp member
      have differs := List.lookup_eq_none_iff.mp missing entry member
      simp [equal] at differs
    show (List.map (·.1) (catalog.entries ++ [_])).Nodup
    rw [List.map_append, List.nodup_append]
    refine ⟨wellFormed.keys_nodup, by simp, ?_⟩
    intro key member key' member' equal
    rw [List.map_singleton, List.mem_singleton] at member'
    rw [equal, member'] at member
    exact fresh member
  name_ne := forall_mem_datasets_add wellFormed.name_ne named
  fileUrl_ne := forall_mem_datasets_add wellFormed.fileUrl_ne (catalog.fileUrl_materialize_ne named)
  ids_eq := by
    rw [datasets_add, List.map_append, wellFormed.ids_eq, size_add, List.map_singleton]
    show _ ++ [catalog.lastDatasetId + 1] = _
    rw [wellFormed.lastDatasetId_eq, List.range'_concat, Nat.one_mul, Nat.add_comm 1]
  columnIds_eq := by
    -- the new columns are counted on from the last one
    have new : (catalog.materialize descriptor).columns.map (·.id) =
        List.range' (1 + catalog.columns.length) (catalog.materialize descriptor).columns.length := by
      unfold materialize
      rw [map_id_placeColumns, wellFormed.lastColumnId_eq, length_placeColumns, Nat.add_comm]
    rw [columns_add, List.map_append, wellFormed.columnIds_eq, new, List.length_append,
      List.range'_append_1]
  indices_eq := by
    refine forall_mem_datasets_add wellFormed.indices_eq ?_
    unfold materialize
    rw [map_index_placeColumns, length_placeColumns, List.range_eq_range']
  datasetId_eq :=
    forall_mem_datasets_add wellFormed.datasetId_eq fun _ member =>
      datasetId_of_mem_placeColumns member
  lastDatasetId_eq := by
    rw [size_add, ← wellFormed.lastDatasetId_eq]
    rfl
  lastColumnId_eq := by
    rw [columns_add, List.length_append, ← wellFormed.lastColumnId_eq]
    unfold materialize
    rw [length_placeColumns]
    rfl

/-! ## Finding datasets -/

/-- Every dataset is found under its own name. -/
theorem WellFormed.find?_name {catalog : Catalog} (wellFormed : catalog.WellFormed)
    {dataset : Dataset} (member : dataset ∈ catalog.datasets) :
    catalog.find? dataset.name = some dataset := by
  obtain ⟨entry, kept, rfl⟩ := List.mem_map.mp member
  have found := (lookup_eq_some_iff_mem wellFormed.keys_nodup).mpr kept
  rw [wellFormed.key_eq entry kept] at found
  exact found

/-- A name that differs in case only finds it as well. -/
theorem WellFormed.find?_of_lowercase {catalog : Catalog} (wellFormed : catalog.WellFormed)
    {dataset : Dataset} (member : dataset ∈ catalog.datasets) {name : String}
    (same : lowercase dataset.name = lowercase name) : catalog.find? name = some dataset := by
  rw [← catalog.find?_congr same]
  exact wellFormed.find?_name member

/-- A name finds a dataset that has this name but for case. -/
theorem WellFormed.lowercase_name_of_find? {catalog : Catalog} (wellFormed : catalog.WellFormed)
    {name : String} {dataset : Dataset} (found : catalog.find? name = some dataset) :
    dataset ∈ catalog.datasets ∧ lowercase dataset.name = lowercase name := by
  have member : (lowercase name, dataset) ∈ catalog.entries := mem_of_lookup found
  exact ⟨List.mem_map_of_mem member, (wellFormed.key_eq _ member).symm⟩

/-- A dataset has no column twice. -/
theorem WellFormed.nodup_columns {catalog : Catalog} (wellFormed : catalog.WellFormed)
    {dataset : Dataset} (member : dataset ∈ catalog.datasets) : dataset.columns.Nodup := by
  refine List.Nodup.of_map (·.index) ?_
  rw [wellFormed.indices_eq dataset member]
  exact List.nodup_range

/-- No two datasets have the same identifier. -/
theorem WellFormed.eq_of_id_eq {catalog : Catalog} (wellFormed : catalog.WellFormed)
    {dataset dataset' : Dataset} (member : dataset ∈ catalog.datasets)
    (member' : dataset' ∈ catalog.datasets) (same : dataset.id = dataset'.id) :
    dataset = dataset' := by
  refine List.inj_on_of_nodup_map ?_ member member' same
  rw [wellFormed.ids_eq]
  exact List.nodup_range'

/-- Nothing is found under a name exactly if no dataset has this name but for case. -/
theorem WellFormed.find?_eq_none_iff {catalog : Catalog} (wellFormed : catalog.WellFormed)
    (name : String) : catalog.find? name = none ↔
      ∀ dataset ∈ catalog.datasets, lowercase dataset.name ≠ lowercase name := by
  constructor
  · intro missing dataset member equal
    rw [wellFormed.find?_of_lowercase member equal] at missing
    cases missing
  · intro none
    cases found : catalog.find? name with
    | none => rfl
    | some dataset =>
      obtain ⟨member, equal⟩ := wellFormed.lowercase_name_of_find? found
      exact absurd equal (none dataset member)

/-! ## Names -/

theorem names_perm (catalog : Catalog) : catalog.names.Perm (catalog.datasets.map (·.name)) :=
  List.mergeSort_perm _ _

theorem length_names (catalog : Catalog) : catalog.names.length = catalog.size := by
  unfold names datasets
  rw [List.length_mergeSort, List.length_map, List.length_map]
  rfl

theorem names_sorted (catalog : Catalog) : catalog.names.Pairwise (· ≤ ·) := by
  have trans : ∀ a b c : String, decide (a ≤ b) = true → decide (b ≤ c) = true →
      decide (a ≤ c) = true := by
    intro a b c left right
    exact decide_eq_true (String.le_trans (of_decide_eq_true left) (of_decide_eq_true right))
  have total : ∀ a b : String, (decide (a ≤ b) || decide (b ≤ a)) = true := by
    intro a b
    simpa using String.le_total a b
  exact (List.pairwise_mergeSort trans total _).imp of_decide_eq_true

/-- Names differ where keys do. -/
theorem WellFormed.names_nodup {catalog : Catalog} (wellFormed : catalog.WellFormed) :
    catalog.names.Nodup := by
  have keys := List.pairwise_map.mp wellFormed.keys_nodup
  rw [catalog.names_perm.nodup_iff, datasets, List.map_map, List.Nodup, List.pairwise_map]
  refine keys.imp_of_mem fun {a b} mem_a mem_b differs same => differs ?_
  rw [wellFormed.key_eq a mem_a, wellFormed.key_eq b mem_b]
  exact congrArg lowercase same

/-- Each name of the list finds the dataset that has exactly this name. -/
theorem WellFormed.find?_of_mem_names {catalog : Catalog} (wellFormed : catalog.WellFormed)
    {name : String} (member : name ∈ catalog.names) :
    ∃ dataset ∈ catalog.datasets, catalog.find? name = some dataset ∧ dataset.name = name := by
  obtain ⟨dataset, kept, rfl⟩ := List.mem_map.mp (catalog.names_perm.mem_iff.mp member)
  exact ⟨dataset, kept, wellFormed.find?_name kept, rfl⟩

/-! ## Steps -/

theorem Step.wellFormed {catalog : Catalog} {outcome : Except Error α × Catalog}
    (step : Step catalog outcome) (wellFormed : catalog.WellFormed) : outcome.2.WellFormed := by
  cases step with
  | fails error => exact wellFormed
  | finds x => exact wellFormed
  | adds x named missing => exact wellFormed.add named missing

/-- The datasets of a list are created step by step, so a catalog stays well-formed even if one of them
fails. -/
theorem keeps_wellFormed_createAll (descriptors : List DatasetDescriptor) :
    Action.Keeps WellFormed (createAll descriptors) := by
  induction descriptors with
  | nil => exact .pure WellFormed ()
  | cons descriptor descriptors ih =>
    exact .bind (fun catalog => (step_create descriptor catalog).wellFormed) fun _ => ih

/-- The catalog of a file is well-formed. -/
theorem wellFormed_of_ofJson? {text : String} {loaded : Catalog}
    (read : ofJson? text = .ok loaded) : loaded.WellFormed := by
  unfold ofJson? at read
  split at read
  · rename_i descriptors _
    have kept := keeps_wellFormed_createAll descriptors .empty wellFormed_empty
    unfold ofDescriptors at read
    split at read
    · rename_i catalog answered
      cases read
      rw [answered] at kept
      exact kept
    · cases read
  · cases read

/-! ## Calls -/

/-- Replaces the catalog by that of a file, if the text is one. -/
def load (text : String) : Action Catalog Unit := do
  set (← Action.ofExcept (ofJson? text))

/-- A call that fills a catalog. -/
inductive Call
  | load (text : String)
  | create (descriptor : DatasetDescriptor)
  | register (name : String) (columns : List Column)
  | findOrCreate (descriptor : DatasetDescriptor)
  | createVideo (name : String)

/-- What the call does. -/
def Call.perform : Call → Action Catalog Unit
  | .load text => Catalog.load text
  | .create descriptor => discard (Catalog.create descriptor)
  | .register name columns => discard (Catalog.register name columns)
  | .findOrCreate descriptor => discard (Catalog.findOrCreate descriptor)
  | .createVideo name => discard ((Binder.ofCatalog interface).createVideo name)

/-- What the call answers and the catalog that it leaves. -/
def Call.outcome (call : Call) (catalog : Catalog) : Except Error Unit × Catalog :=
  call.perform.answer catalog

/-- The catalogs that come about by calls, whether or not these fail. -/
inductive Reached : Catalog → Prop
  | empty : Reached .empty
  | call {catalog : Catalog} (call : Call) : Reached catalog → Reached (call.outcome catalog).2

/-- Any number of calls, one after the other, lead to catalogs that are reached. -/
theorem Reached.calls {catalog : Catalog} (reached : catalog.Reached) (calls : List Call) :
    Reached (calls.foldl (fun catalog call => (call.outcome catalog).2) catalog) := by
  induction calls generalizing catalog with
  | nil => exact reached
  | cons call calls ih => exact ih (reached.call call)

theorem answer_load (text : String) (catalog : Catalog) :
    (load text).answer catalog =
      match ofJson? text with
      | .ok loaded => (.ok (), loaded)
      | .error error => (.error error, catalog) := by
  unfold load
  rw [Action.answer_bind, Action.answer_ofExcept]
  cases ofJson? text <;> rfl

/-- A call is one step, or it takes the catalog of a file as a whole. -/
theorem Call.outcome_cases (call : Call) (catalog : Catalog) :
    Step catalog (call.outcome catalog) ∨
      ∃ text loaded, ofJson? text = .ok loaded ∧ call.outcome catalog = (.ok (), loaded) := by
  cases call with
  | load text =>
    unfold outcome perform
    dsimp only
    rw [answer_load]
    cases read : ofJson? text with
    | error error => exact .inl (.fails error)
    | ok loaded => exact .inr ⟨text, loaded, read, rfl⟩
  | create descriptor => exact .inl (step_create descriptor catalog).discard
  | register name columns => exact .inl (step_create (.named name columns) catalog).discard
  | findOrCreate descriptor => exact .inl (step_findOrCreate descriptor catalog).discard
  | createVideo name => exact .inl (step_createVideo name catalog).discard

theorem Reached.wellFormed {catalog : Catalog} (reached : catalog.Reached) :
    catalog.WellFormed := by
  induction reached with
  | empty => exact wellFormed_empty
  | @call catalog call reached ih =>
    rcases call.outcome_cases catalog with step | ⟨text, loaded, read, outcome⟩
    · exact step.wellFormed ih
    · rw [outcome]
      exact wellFormed_of_ofJson? read

/-- A call that fails leaves the catalog with its counts as it was. -/
theorem Call.unchanged_of_error (call : Call) (catalog : Catalog) {error : Error}
    (failed : (call.outcome catalog).1 = .error error) : (call.outcome catalog).2 = catalog := by
  rcases call.outcome_cases catalog with step | ⟨text, loaded, read, outcome⟩
  · exact step.unchanged failed
  · rw [outcome] at failed
    cases failed

/-! ## Main statement -/

/-- Every catalog that is reached is well-formed. The list of its names is sorted, has each name of a
dataset once, and each of them finds the dataset of exactly this name. A call that fails changes nothing,
neither the datasets nor the counts. -/
theorem reached_wellFormed {catalog : Catalog} (reached : catalog.Reached) :
    catalog.WellFormed ∧
    (catalog.names.Pairwise (· ≤ ·) ∧ catalog.names.length = catalog.size ∧ catalog.names.Nodup ∧
      catalog.names.Perm (catalog.datasets.map (·.name)) ∧
      ∀ name ∈ catalog.names, ∃ dataset ∈ catalog.datasets,
        catalog.find? name = some dataset ∧ dataset.name = name) ∧
    ∀ (call : Call) (error : Error), (call.outcome catalog).1 = .error error →
      (call.outcome catalog).2 = catalog := by
  have wellFormed := reached.wellFormed
  refine ⟨wellFormed, ⟨catalog.names_sorted, catalog.length_names, wellFormed.names_nodup,
    catalog.names_perm, ?_⟩, ?_⟩
  · intro name member
    exact wellFormed.find?_of_mem_names member
  · intro call error failed
    exact call.unchanged_of_error catalog failed

/-- A dataset is created whose column claims a place of its own. Two creations fail, a table is registered
and found again, and a video is created. A text that is no catalog file would change nothing. -/
theorem reached_wellFormed_afterFaults :
    let calls : List Call :=
      [.create { name := "Clips",
                 columns := [{ id := 7, name := "id", type := { base := .integer }, index := 3,
                               datasetId := some 9 }] },
       .create (.named "CLIPS" []),
       .createVideo "",
       .register "Labels" [{ name := "label", type := { base := .text } }],
       .findOrCreate (.named "LABELS" []),
       .createVideo "Boxes"]
    let catalog := calls.foldl (fun catalog call => (call.outcome catalog).2) .empty
    (catalog.datasets.map (·.name) = ["Clips", "Labels", "Boxes"] ∧
      catalog.columns.map (·.id) = [1, 2, 3, 4]) ∧
    catalog.Reached ∧ catalog.WellFormed ∧
    (catalog.names.Nodup ∧ catalog.names.length = catalog.size) ∧
    ((Call.load "[]").outcome catalog).2 = catalog := by
  intro calls catalog
  have reached : catalog.Reached := Reached.empty.calls calls
  have noFile : ofJson? "[]" = .error .json := by cbv
  have failed : ((Call.load "[]").outcome catalog).1 = .error .json := by
    show ((load "[]").answer catalog).1 = _
    rw [answer_load, noFile]
  obtain ⟨wellFormed, ⟨-, length, nodup, -⟩, unchanged⟩ := reached_wellFormed reached
  exact ⟨by decide +kernel, reached, wellFormed, ⟨nodup, length⟩, unchanged _ _ failed⟩

end Catalog

end VideoPlan
