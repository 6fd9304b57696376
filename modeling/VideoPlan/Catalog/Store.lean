import VideoPlan.Catalog.Interface
import VideoPlan.Text.Casing

/-!
# The catalog in memory

Datasets are kept under their names in lower case, in the order of their creation. Identifiers count up
from one, over the whole catalog, for datasets and for columns; whatever a descriptor says of identifiers
and positions is replaced.
-/

namespace VideoPlan

open Text

/-- A catalog in memory. -/
structure Catalog where
  /-- The datasets under their names in lower case. -/
  entries : List (String × Dataset) := []
  /-- The identifier given to the last dataset. -/
  lastDatasetId : Nat := 0
  /-- The identifier given to the last column. -/
  lastColumnId : Nat := 0
deriving DecidableEq

namespace Catalog

/-- The catalog without datasets. -/
def empty : Catalog := {}

/-- The datasets, in the order of their creation. -/
def datasets (catalog : Catalog) : List Dataset :=
  catalog.entries.map (·.2)

/-- The number of datasets. -/
def size (catalog : Catalog) : Nat :=
  catalog.entries.length

/-- The dataset of a name, in any case. -/
def find? (catalog : Catalog) (name : String) : Option Dataset :=
  catalog.entries.lookup (lowercase name)

/-- The columns with the places that they take in dataset `datasetId`, from position `index` on. -/
def placeColumns (datasetId lastId : Nat) : Nat → List Column → List Column
  | _, [] => []
  | index, column :: columns =>
    { column with id := lastId + 1, index, datasetId := some datasetId } ::
      placeColumns datasetId (lastId + 1) (index + 1) columns

/-- The dataset that the catalog makes of a descriptor. -/
def materialize (catalog : Catalog) (descriptor : DatasetDescriptor) : Dataset where
  id := catalog.lastDatasetId + 1
  name := descriptor.name
  fileUrl := if descriptor.fileUrl.isEmpty then descriptor.name else descriptor.fileUrl
  identifierColumn := descriptor.identifierColumn
  isVideo := descriptor.isVideo
  columns := placeColumns (catalog.lastDatasetId + 1) catalog.lastColumnId 0 descriptor.columns

/-- The catalog after a dataset of the descriptor has been added. -/
def add (catalog : Catalog) (descriptor : DatasetDescriptor) : Catalog where
  entries := catalog.entries ++ [(lowercase descriptor.name, catalog.materialize descriptor)]
  lastDatasetId := catalog.lastDatasetId + 1
  lastColumnId := catalog.lastColumnId + descriptor.columns.length

/-- Adds a dataset of the descriptor and answers it. -/
def insert (descriptor : DatasetDescriptor) : Action Catalog Dataset := do
  let catalog ← get
  set (catalog.add descriptor)
  return catalog.materialize descriptor

/-- Creates a dataset; its name must not be empty or taken. -/
def create (descriptor : DatasetDescriptor) : Action Catalog Dataset := do
  if descriptor.name.isEmpty then throw (.creation .emptyName)
  else if ((← get).find? descriptor.name).isSome then
    throw (.creation (.nameTaken descriptor.name))
  else insert descriptor

/-- The dataset of the descriptor's name, created if it is missing. -/
def findOrCreate (descriptor : DatasetDescriptor) : Action Catalog Dataset := do
  if descriptor.name.isEmpty then throw (.creation .emptyName)
  else match (← get).find? descriptor.name with
    | some dataset => return dataset
    | none => insert descriptor

/-- The names of all datasets, sorted. -/
def names (catalog : Catalog) : List String :=
  (catalog.datasets.map (·.name)).mergeSort (· ≤ ·)

/-- Creates a table that lies under its own name. -/
def register (name : String) (columns : List Column) : Action Catalog Dataset :=
  create (.named name columns)

/-- Creates the datasets one after the other, up to the first failure. -/
def createAll : List DatasetDescriptor → Action Catalog Unit
  | [] => return
  | descriptor :: descriptors => do
    let _ ← create descriptor
    createAll descriptors

/-- A catalog of these datasets. -/
def ofDescriptors (descriptors : List DatasetDescriptor) : Except Error Catalog :=
  match (createAll descriptors).answer empty with
  | (.ok _, catalog) => .ok catalog
  | (.error error, _) => .error error

/-- The catalog in memory as planning uses it. -/
def interface : CatalogInterface Catalog where
  find? := find?
  create := create
  findOrCreate := findOrCreate
  names := names

/-- The catalog in memory with the two-step way of finding or creating a dataset. -/
def twoStepInterface : CatalogInterface Catalog where
  find? := find?
  create := create
  findOrCreate := CatalogInterface.findThenCreate find? create
  names := names

end Catalog

end VideoPlan
