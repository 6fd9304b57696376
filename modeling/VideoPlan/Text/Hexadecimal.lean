import VideoPlan.Number.Decimal

/-!
# Hexadecimal digits

Numbers in base sixteen: written in lower case, read in either case.
-/

namespace VideoPlan.Text

/-- The digits of `n` in base sixteen, in lower case. -/
def hexDigits (n : Nat) : List Char :=
  Nat.toDigits 16 n

/-- The value of a hexadecimal digit. -/
def hexValue? (c : Char) : Option Nat :=
  if c.isDigit then some (Number.digitValue c)
  else if 'a' ≤ c.toLower && c.toLower ≤ 'f' then some (c.toLower.toNat - 'a'.toNat + 10)
  else none

/-- The number that hexadecimal digits write. -/
def ofHexDigits? (cs : List Char) : Option Nat :=
  if cs.isEmpty then none else cs.foldlM (fun n c => (hexValue? c).map (n * 16 + ·)) 0

end VideoPlan.Text
