import VideoPlan.Catalog.Column
import VideoPlan.Error
import VideoPlan.Text.Casing
import VideoPlan.Text.Escaped

/-!
# Registries

A registry makes things by their names, in any case. What a name makes is given once and made anew each
time it is asked for. `Registry.loaders` knows what reads the files that are loaded.
-/

namespace VideoPlan

open Text

/-- What each name makes. -/
structure Registry (α : Type) where
  /-- The makings under their names in lower case. -/
  entries : List (String × α) := []

namespace Registry

/-- The registry without names. -/
def empty : Registry α := {}

/-- What the name makes, in any case. -/
def find? (registry : Registry α) (name : String) : Option α :=
  registry.entries.lookup (lowercase name)

/-- Registers a making, and answers the one that it replaces. -/
def register (registry : Registry α) (name : String) (making : α) : Option α × Registry α :=
  (registry.find? name,
    ⟨(lowercase name, making) :: registry.entries.filter (·.1 != lowercase name)⟩)

/-- Whether the name is registered, in any case. -/
def contains (registry : Registry α) (name : String) : Bool :=
  (registry.find? name).isSome

/-- Makes what the name stands for. -/
def create (registry : Registry α) (name : String) : Except Error α :=
  match registry.find? name with
  | some making => .ok making
  | none => .error (.unknownName name)

/-- The registered names in lower case, sorted. -/
def names (registry : Registry α) : List String :=
  (registry.entries.map (·.1)).mergeSort (· ≤ ·)

/-- The registry of these makings; a later one replaces an earlier one of its name. -/
def ofList (makings : List (String × α)) : Registry α :=
  makings.foldl (fun registry (name, making) => (registry.register name making).2) empty

/-- A registry as it is shown where everything must be visible. -/
def shown (registry : Registry α) : String :=
  "FactoryRegistry \x7b names: [" ++ commaList (registry.names.map escaped) ++ "] \x7d"

end Registry

/-- What reads a file that is loaded. -/
structure Loader where
  name : String
  /-- Whether it reads frames out of a video. -/
  decodesVideo : Bool
deriving DecidableEq

/-- The loaders for videos and for tables of text. -/
def Registry.loaders : Registry Loader :=
  .ofList [("video", ⟨"video", true⟩), ("csv", ⟨"csv", false⟩)]

end VideoPlan
