import VideoPlan.Catalog.Column
import VideoPlan.Error
import VideoPlan.Text.Casing

/-!
# What definitions of columns declare

A definition is checked by itself, then against the names before it. Definitions are taken in order, and
the first failure counts.
-/

namespace VideoPlan

open Text

namespace ColumnDefinition

/-- Fails if the definition contradicts itself: it must have a name, and an element type exactly if it is
of an array; other types have no dimensions. -/
def check (definition : ColumnDefinition) : Except Error Unit :=
  if definition.name.isEmpty then .error (.bind .emptyColumnName)
  else match definition.type.base, definition.type.element with
    | .ndArray, none => .error (.bind (.missingElementType definition.name))
    | .ndArray, some _ => .ok ()
    | _, some _ => .error (.bind (.unexpectedElementType definition.name))
    | _, none =>
      if definition.type.dimensions.isEmpty then .ok ()
      else .error (.bind (.unexpectedDimensions definition.name))

/-- The inputs or outputs of a function that the definitions declare. -/
def toParameters (isInput : Bool) : List ColumnDefinition → Except Error (List UdfParameter)
  | [] => return []
  | definition :: definitions => do
    check definition
    let parameters ← toParameters isInput definitions
    return { name := definition.name, type := definition.type, isInput } :: parameters

/-- The columns that the definitions declare, from position `index` on, behind columns with the names
`seen` in lower case. -/
def toColumnsFrom (index : Nat) (seen : List String) :
    List ColumnDefinition → Except Error (List Column)
  | [] => return []
  | definition :: definitions => do
    check definition
    let key := lowercase definition.name
    if seen.contains key then throw (.bind (.duplicateColumn definition.name))
    else
      let columns ← toColumnsFrom (index + 1) (key :: seen) definitions
      return { name := definition.name, type := definition.type, nullable := definition.nullable,
               index } :: columns

/-- The columns of a new table that the definitions declare; no two may have the same name but for
case. -/
def toColumns (definitions : List ColumnDefinition) : Except Error (List Column) :=
  toColumnsFrom 0 [] definitions

end ColumnDefinition

end VideoPlan
