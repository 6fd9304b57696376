/-!
# Decimal numbers of 96 bits

A decimal number is a sign, a mantissa below 2^96 and up to 28 places after the point; 2.50 and 2.5 are
different texts of the same amount, and each keeps its places. Reading keeps every digit that fits: past
the last place, or where the mantissa would grow too large behind the point, the next digit rounds and
those behind it say nothing.
-/

namespace VideoPlan.Number

/-- Mantissas have 96 bits: they lie below 2 ^ 96. -/
def mantissaLimit : Nat := 0x1000000000000000000000000

/-- A decimal number, `mantissa / 10 ^ scale` with a sign. -/
structure Decimal where
  negative : Bool
  mantissa : Nat
  scale : Nat
  mantissa_lt : mantissa < mantissaLimit
  scale_le : scale ≤ 28
deriving DecidableEq

/-- The value of a decimal digit. -/
def digitValue (c : Char) : Nat :=
  c.toNat - '0'.toNat

/-- The number that a run of digits writes. -/
def ofDigits (cs : List Char) : Nat :=
  cs.foldl (fun n c => n * 10 + digitValue c) 0

/-- The number that digits write, after an optional plus sign. -/
def readNat? : List Char → Option Nat
  | '+' :: c :: cs => if (c :: cs).all Char.isDigit then some (ofDigits (c :: cs)) else none
  | c :: cs => if (c :: cs).all Char.isDigit then some (ofDigits (c :: cs)) else none
  | [] => none

namespace Decimal

/-- The number of these parts, if they fit; zero has no sign. -/
def ofParts? (negative : Bool) (mantissa scale : Nat) : Option Decimal :=
  if h : mantissa < mantissaLimit ∧ scale ≤ 28 then
    some ⟨negative && mantissa != 0, mantissa, scale, h.1, h.2⟩
  else none

/-- Ends the number at a digit that is too many, which rounds half up. A mantissa that grows too large by
that gives up its last place. -/
def roundAt? (negative : Bool) (mantissa scale digit : Nat) : Option Decimal :=
  if digit < 5 then ofParts? negative mantissa scale
  else if mantissa + 1 < mantissaLimit then ofParts? negative (mantissa + 1) scale
  else if scale = 0 then none
  else ofParts? negative ((mantissa + 5) / 10) (scale - 1)

/-- What may follow a digit behind the point. -/
def isTail (c : Char) : Bool :=
  c.isDigit || c = '_'

/-- Reads on after `mantissa`, with `scale` of its digits behind the point. -/
def readFrom? (negative seenPoint seenDigit : Bool) (mantissa scale : Nat) :
    List Char → Option Decimal
  | [] => if seenDigit then ofParts? negative mantissa scale else none
  | c :: rest =>
    if seenPoint && 28 ≤ scale then
      if c.isDigit then
        if rest.all isTail then roundAt? negative mantissa scale (digitValue c) else none
      else if c = '_' then readFrom? negative seenPoint seenDigit mantissa scale rest
      else none
    else if c.isDigit then
      let next := mantissa * 10 + digitValue c
      if next < mantissaLimit then
        readFrom? negative seenPoint true next (if seenPoint then scale + 1 else scale) rest
      else if seenPoint && rest.all isTail then roundAt? negative mantissa scale (digitValue c)
      else none
    else if c = '.' && !seenPoint then readFrom? negative true seenDigit mantissa scale rest
    else if c = '_' && seenDigit then readFrom? negative seenPoint seenDigit mantissa scale rest
    else none

/-- Reads a number without an exponent: digits with at most one point, and underscores after the first
digit. -/
def readPlain? : List Char → Option Decimal
  | '-' :: cs => readFrom? true false false 0 0 cs
  | '+' :: cs => readFrom? false false false 0 0 cs
  | cs => readFrom? false false false 0 0 cs

/-- The number without its last `places` digits, of which the first rounds half up; the sign stays even if
nothing else does. -/
def dropPlaces? (d : Decimal) (places scale : Nat) : Option Decimal :=
  let unit := Nat.pow 10 places
  let mantissa := (d.mantissa + unit / 2) / unit
  if h : mantissa < mantissaLimit ∧ scale ≤ 28 then some ⟨d.negative, mantissa, scale, h.1, h.2⟩ else none

/-- Moves the point `places` to the left, by at most 28. Places past the last one are rounded away. -/
def shiftLeft? (d : Decimal) (places : Nat) : Option Decimal :=
  if 28 < places then none
  else if d.scale + places ≤ 28 then ofParts? d.negative d.mantissa (d.scale + places)
  else d.dropPlaces? (d.scale + places - 28) 28

/-- Moves the point `places` to the right, by at most 28. -/
def shiftRight? (d : Decimal) (places : Nat) : Option Decimal :=
  if places ≤ d.scale then ofParts? d.negative d.mantissa (d.scale - places)
  else if places ≤ 28 then ofParts? d.negative (d.mantissa * Nat.pow 10 (places - d.scale)) 0
  else none

/-- Reads a number with an optional exponent. -/
def read? (cs : List Char) : Option Decimal :=
  match cs.span fun c => c != 'e' && c != 'E' with
  | (base, []) => readPlain? base
  | (base, _ :: '-' :: exponent) => do (← readPlain? base).shiftLeft? (← readNat? exponent)
  | (base, _ :: exponent) => do (← readPlain? base).shiftRight? (← readNat? exponent)

end Decimal

/-- Digits with a point before the last `places` of them, at least one digit before the point. -/
def withPoint (digits : List Char) (places : Nat) : List Char :=
  if places = 0 then digits
  else
    let padded := List.replicate (places + 1 - digits.length) '0' ++ digits
    padded.take (padded.length - places) ++ '.' :: padded.drop (padded.length - places)

/-- The digits of `n` in base ten. -/
def digitsOf (n : Nat) : List Char :=
  Nat.toDigits 10 n

/-- The text of a decimal number, with all its places. -/
def Decimal.text (d : Decimal) : String :=
  String.ofList ((if d.negative then ['-'] else []) ++ withPoint (digitsOf d.mantissa) d.scale)

end VideoPlan.Number
