import VideoPlan.Text.Casing

/-!
# Column types and columns

The type of a column is a scalar type or an array of elements, with the size of each dimension where it is
bounded. Types are shown as they are declared.
-/

namespace VideoPlan

/-- The type of a column as far as planning looks at it. -/
inductive ColumnType
  | boolean
  | integer
  | float
  | text
  | ndArray
deriving DecidableEq

/-- The name of a column type in declarations. -/
def ColumnType.keyword : ColumnType → String
  | .boolean => "BOOLEAN"
  | .integer => "INTEGER"
  | .float => "FLOAT"
  | .text => "TEXT"
  | .ndArray => "NDARRAY"

/-- The type of the elements of an array. -/
inductive ElementType
  | int8
  | uint8
  | int16
  | int32
  | int64
  | float32
  | float64
  | unicode
  | bool
  | decimal
deriving DecidableEq

/-- The name of an element type in declarations. -/
def ElementType.keyword : ElementType → String
  | .int8 => "INT8"
  | .uint8 => "UINT8"
  | .int16 => "INT16"
  | .int32 => "INT32"
  | .int64 => "INT64"
  | .float32 => "FLOAT32"
  | .float64 => "FLOAT64"
  | .unicode => "UNICODE"
  | .bool => "BOOL"
  | .decimal => "DECIMAL"

/-- The element type that a name in upper case declares; `STR` is another name of `UNICODE`. -/
def ElementType.ofKeyword? : String → Option ElementType
  | "INT8" => some .int8
  | "UINT8" => some .uint8
  | "INT16" => some .int16
  | "INT32" => some .int32
  | "INT64" => some .int64
  | "FLOAT32" => some .float32
  | "FLOAT64" => some .float64
  | "UNICODE" | "STR" => some .unicode
  | "BOOL" => some .bool
  | "DECIMAL" => some .decimal
  | _ => none

/-- The element type that a name declares, in any case. -/
def ElementType.ofName? (name : String) : Option ElementType :=
  ofKeyword? (Text.asciiUppercase name)

/-- A column type with the element type and the dimensions of an array; an unbounded dimension is
`none`. -/
structure DataType where
  base : ColumnType
  element : Option ElementType := none
  dimensions : List (Option Nat) := []
deriving DecidableEq

/-- Texts with a comma and a space between them. -/
def commaList (texts : List String) : String :=
  ", ".intercalate texts

/-- A dimension as it is declared. -/
def dimensionText : Option Nat → String
  | some size => toString size
  | none => "ANYDIM"

/-- A type as it is declared. -/
def DataType.declared (type : DataType) : String :=
  type.base.keyword ++
    (match type.element with
      | some element => " " ++ element.keyword
      | none => "") ++
    (if type.dimensions.isEmpty then ""
      else "(" ++ commaList (type.dimensions.map dimensionText) ++ ")")

/-- A column of a dataset. -/
structure Column where
  id : Nat := 0
  name : String
  type : DataType
  nullable : Bool := true
  /-- The position of the column in its dataset. -/
  index : Nat := 0
  datasetId : Option Nat := none
deriving DecidableEq

/-- A column as it is declared. -/
def Column.declared (column : Column) : String :=
  column.name ++ " " ++ column.type.declared

/-- A column as a statement declares it. -/
structure ColumnDefinition where
  name : String
  type : DataType
  nullable : Bool := true
deriving DecidableEq

/-- An input or an output of a user-defined function. -/
structure UdfParameter where
  name : String
  type : DataType
  isInput : Bool
deriving DecidableEq

/-- A parameter as it is declared. -/
def UdfParameter.declared (parameter : UdfParameter) : String :=
  parameter.name ++ " " ++ parameter.type.declared

end VideoPlan
