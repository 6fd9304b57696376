import VideoPlan.Catalog.Store
import VideoPlan.Json.Value

/-!
# Catalog files

A catalog can be kept as a JSON text, a record with the descriptors of its datasets. Identifiers and
positions of columns may be there but are given anew.
-/

namespace VideoPlan

open Json

/-- The column type of a name in a catalog file. -/
def ColumnType.ofJsonName? : String → Option ColumnType
  | "Boolean" => some .boolean
  | "Integer" => some .integer
  | "Float" => some .float
  | "Text" => some .text
  | "NdArray" => some .ndArray
  | _ => none

/-- The element type of a name in a catalog file. -/
def ElementType.ofJsonName? : String → Option ElementType
  | "Int8" => some .int8
  | "UInt8" => some .uint8
  | "Int16" => some .int16
  | "Int32" => some .int32
  | "Int64" => some .int64
  | "Float32" => some .float32
  | "Float64" => some .float64
  | "Unicode" => some .unicode
  | "Bool" => some .bool
  | "Decimal" => some .decimal
  | _ => none

/-- The column of a record in a catalog file. -/
def Column.ofJson? (value : Value) : Option Column := do
  match ← value.fields? ["id", "name", "col_type", "array_type", "dimensions", "is_nullable", "index",
      "dataset_id"] with
  | [id, some name, some base, element, dimensions, nullable, index, datasetId] =>
    let id ← Value.orElse Value.nat? 0 id
    let name ← name.text?
    let base ← base.name?.bind ColumnType.ofJsonName?
    let element ← Value.orElse (Value.nullable? (·.name?.bind ElementType.ofJsonName?)) none element
    let dimensions ← Value.orElse (Value.list? (Value.nullable? Value.nat?)) [] dimensions
    let nullable ← Value.orElse Value.bool? true nullable
    let index ← Value.orElse Value.nat? 0 index
    let datasetId ← Value.orElse (Value.nullable? Value.nat?) none datasetId
    return { id, name, type := { base, element, dimensions }, nullable, index, datasetId }
  | _ => none

/-- The descriptor of a record in a catalog file. -/
def DatasetDescriptor.ofJson? (value : Value) : Option DatasetDescriptor := do
  match ← value.fields? ["name", "file_url", "identifier_column", "is_video", "columns"] with
  | [some name, fileUrl, identifierColumn, isVideo, some columns] =>
    let name ← name.text?
    let fileUrl ← Value.orElse Value.text? "" fileUrl
    let identifierColumn ← Value.orElse Value.text? "id" identifierColumn
    let isVideo ← Value.orElse Value.bool? false isVideo
    let columns ← columns.list? Column.ofJson?
    return { name, fileUrl, identifierColumn, isVideo, columns }
  | _ => none

/-- The descriptors of a catalog file. -/
def DatasetDescriptor.listOfJson? (text : String) : Option (List DatasetDescriptor) := do
  match ← (← Value.read? text).fields? ["datasets"] with
  | [some datasets] => datasets.list? ofJson?
  | _ => none

/-- The catalog of a catalog file. -/
def Catalog.ofJson? (text : String) : Except Error Catalog :=
  match DatasetDescriptor.listOfJson? text with
  | some descriptors => ofDescriptors descriptors
  | none => .error .json

end VideoPlan
