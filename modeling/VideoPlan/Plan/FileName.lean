import VideoPlan.Text.Casing

/-!
# Names of files in paths

A path is names with slashes between them. Empty names and names for the same place do not count, so a
path may end in a slash and still name a file.
-/

namespace VideoPlan

/-- The parts of a text between the separators. -/
def splitAt (separator : Char) : List Char → List (List Char)
  | [] => [[]]
  | c :: rest =>
    if c = separator then [] :: splitAt separator rest
    else match splitAt separator rest with
      | [] => [[c]]
      | part :: parts => (c :: part) :: parts

/-- The name of the file that a path leads to, unless it leads up or stays where it is. -/
def fileName? (path : String) : Option (List Char) :=
  let names := (splitAt '/' path.toList).filter fun name => !name.isEmpty && name != ['.']
  names.getLast?.filter (· != ['.', '.'])

/-- What follows the last point of a name that has something before it. -/
def extension? (name : List Char) : Option (List Char) :=
  match (splitAt '.' name).reverse with
  | last :: before :: parts => if before.isEmpty && parts.isEmpty then none else some last
  | _ => none

/-- Whether the path leads to a file with this extension, in any case. -/
def hasExtension (path extension : String) : Bool :=
  match (fileName? path).bind extension? with
  | some found => Text.sameIgnoringAsciiCase (String.ofList found) extension
  | none => false

end VideoPlan
