import VideoPlan.Catalog.Column

/-!
# Datasets

A dataset is a table or a video with its columns, as the catalog keeps it. A descriptor is what one has
before the catalog has given out identifiers.
-/

namespace VideoPlan

/-- A table or video in the catalog. -/
structure Dataset where
  id : Nat
  name : String
  fileUrl : String
  identifierColumn : String
  isVideo : Bool
  columns : List Column
deriving DecidableEq

/-- The names of the columns, in order. -/
def Dataset.columnNames (dataset : Dataset) : List String :=
  dataset.columns.map (·.name)

/-- A dataset as plans show it. -/
def Dataset.label (dataset : Dataset) : String :=
  dataset.name ++ "#" ++ toString dataset.id

/-- What is known of a dataset before it is created. -/
structure DatasetDescriptor where
  name : String
  /-- Where the data lies; an empty text stands for the name. -/
  fileUrl : String := ""
  identifierColumn : String := "id"
  isVideo : Bool := false
  columns : List Column
deriving DecidableEq

/-- A descriptor of a dataset that lies under its own name. -/
def DatasetDescriptor.named (name : String) (columns : List Column) : DatasetDescriptor :=
  { name, fileUrl := name, columns }

/-- The columns of every video: the number of the frame and its picture. -/
def videoColumns : List Column :=
  [{ name := "id", type := { base := .integer }, nullable := false },
   { name := "data",
     type := { base := .ndArray, element := some .uint8, dimensions := [none, none, none] } }]

/-- A descriptor of a new video. -/
def DatasetDescriptor.video (name : String) : DatasetDescriptor :=
  { DatasetDescriptor.named name videoColumns with isVideo := true }

end VideoPlan
