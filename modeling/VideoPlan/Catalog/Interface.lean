import VideoPlan.Catalog.Dataset
import VideoPlan.Error

/-!
# What planning asks of a catalog

A catalog is any state `σ` with these operations. Finding a dataset or creating it where it is missing may
be one operation of its own; `CatalogInterface.findThenCreate` is what it is by default.
-/

namespace VideoPlan

/-- The operations of a catalog whose state is `σ`. -/
structure CatalogInterface (σ : Type) where
  /-- Looks a dataset up by its name. -/
  find? : σ → String → Option Dataset
  /-- Creates a dataset; fails if the name is taken. -/
  create : DatasetDescriptor → Action σ Dataset
  /-- The dataset of the descriptor's name, created if it is missing. -/
  findOrCreate : DatasetDescriptor → Action σ Dataset
  /-- The names of all datasets, sorted. -/
  names : σ → List String

/-- Looks the descriptor's name up, then creates the dataset if it was not found. -/
def CatalogInterface.findThenCreate (find? : σ → String → Option Dataset)
    (create : DatasetDescriptor → Action σ Dataset) (descriptor : DatasetDescriptor) :
    Action σ Dataset := do
  match find? (← get) descriptor.name with
  | some dataset => return dataset
  | none => create descriptor

end VideoPlan
