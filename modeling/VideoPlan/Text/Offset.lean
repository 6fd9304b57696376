/-!
# Byte offsets into text

A cursor counts the bytes of the text's UTF-8 form. An offset can be used only where it falls between two
characters; every function here says so by its result.
-/

namespace VideoPlan.Text

/-- The number of bytes that `cs` takes in UTF-8. -/
def byteLength : List Char → Nat
  | [] => 0
  | c :: rest => c.utf8Size + byteLength rest

/-- The text before and after the byte offset, if that lies between two characters. -/
def splitAtByte? : Nat → List Char → Option (List Char × List Char)
  | 0, cs => some ([], cs)
  | _ + 1, [] => none
  | offset + 1, c :: rest =>
    if c.utf8Size ≤ offset + 1 then
      (splitAtByte? (offset + 1 - c.utf8Size) rest).map fun (before, after) => (c :: before, after)
    else none

/-- The text from the byte offset on. -/
def dropBytes? (offset : Nat) (cs : List Char) : Option (List Char) :=
  (splitAtByte? offset cs).map (·.2)

/-- The text between two byte offsets. -/
def sliceBytes? (start stop : Nat) (cs : List Char) : Option (List Char) := do
  let (before, _) ← splitAtByte? stop cs
  dropBytes? start before

end VideoPlan.Text
