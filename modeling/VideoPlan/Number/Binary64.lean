import VideoPlan.Number.Decimal

/-!
# Floating-point numbers of 64 bits

A number is its 64 bits in the standard's binary format. Reading rounds the exact decimal value to the
nearest number, ties to the even mantissa; writing is in `VideoPlan.Number.Shortest`.
-/

namespace VideoPlan.Number

/-- A binary floating-point number. -/
structure Binary64 where
  bits : UInt64
deriving DecidableEq

namespace Binary64

/-- The bits of infinity without a sign; above them are those that are no number. -/
def infinityBits : Nat := 2047 <<< 52

/-- The number with this sign and these bits behind it. -/
def ofSigned (negative : Bool) (magnitude : Nat) : Binary64 :=
  ⟨UInt64.ofNat (magnitude + if negative then 1 <<< 63 else 0)⟩

/-- Infinity. -/
def infinity (negative : Bool) : Binary64 := ofSigned negative infinityBits

/-- The value that is no number. -/
def nan : Binary64 := ofSigned false (infinityBits + (1 <<< 51))

/-- Whether the sign bit is set. -/
def negative (x : Binary64) : Bool := 1 <<< 63 ≤ x.bits.toNat

/-- The bits without the sign. -/
def magnitude (x : Binary64) : Nat := x.bits.toNat % (1 <<< 63)

/-- The quotient, rounded to the nearest integer, ties to even. -/
def roundDiv (num den : Nat) : Nat :=
  let quotient := num / den
  let twice := 2 * (num % den)
  if twice < den || (twice = den && quotient % 2 = 0) then quotient else quotient + 1

/-- The quotient `num / (den * 2 ^ exponent)`, rounded. -/
def scaledDiv (num den : Nat) (exponent : Int) : Nat :=
  if 0 ≤ exponent then roundDiv num (den <<< exponent.toNat)
  else roundDiv (num <<< (-exponent).toNat) den

/-- Whether `num / den` lies below `2 ^ exponent`. -/
def belowPower (num den : Nat) (exponent : Int) : Bool :=
  if 0 ≤ exponent then num < den <<< exponent.toNat else num <<< (-exponent).toNat < den

/-- The exponent `q` for which the mantissa `num / den / 2 ^ q` has 53 bits, but at least that of the
smallest number. -/
def unitExponent (num den : Nat) : Int :=
  let guess : Int := (num.log2 : Int) - (den.log2 : Int)
  let top := if belowPower num den guess then guess - 1 else guess
  max (top - 52) (-1074)

/-- The bits of the number nearest to `num / den`, for positive arguments. -/
def bitsOfRatio (num den : Nat) : Nat :=
  let q := unitExponent num den
  min infinityBits (((q + 1074).toNat <<< 52) + scaledDiv num den q)

/-- The number nearest to `mantissa * 10 ^ exponent`. Exponents so large or small that the result cannot
depend on the digits are not computed with. -/
def ofDecimal (negative : Bool) (mantissa : Nat) (exponent : Int) : Binary64 :=
  let size : Int := exponent + (digitsOf mantissa).length
  if mantissa = 0 || size < -400 then ofSigned negative 0
  else if 400 < size then infinity negative
  else if 0 ≤ exponent then ofSigned negative (bitsOfRatio (mantissa * Nat.pow 10 exponent.toNat) 1)
  else ofSigned negative (bitsOfRatio mantissa (Nat.pow 10 (-exponent).toNat))

/-- The exponent behind an `e`: digits with an optional sign. -/
def readExponent? : List Char → Option Int
  | [] => some 0
  | _ :: '-' :: cs => if cs.isEmpty || !cs.all Char.isDigit then none else some (-(ofDigits cs : Int))
  | _ :: '+' :: cs => if cs.isEmpty || !cs.all Char.isDigit then none else some (ofDigits cs)
  | _ :: cs => if cs.isEmpty || !cs.all Char.isDigit then none else some (ofDigits cs)

/-- Reads digits with an optional point and an optional exponent, at least one digit in all. -/
def readDigits? (negative : Bool) (cs : List Char) : Option Binary64 :=
  let (base, exponent) := cs.span fun c => c != 'e' && c != 'E'
  let (whole, point) := base.span (· != '.')
  let places := point.drop 1
  if (whole ++ places).isEmpty || !(whole ++ places).all Char.isDigit then none
  else (readExponent? exponent).map fun e =>
    ofDecimal negative (ofDigits (whole ++ places)) (e - places.length)

/-- Reads a number without its sign, among them the names of infinity and of no number in any case. -/
def readUnsigned? (negative : Bool) (cs : List Char) : Option Binary64 :=
  let name := String.ofList (cs.map Char.toLower)
  if name = "inf" || name = "infinity" then some (infinity negative)
  else if name = "nan" then some nan
  else readDigits? negative cs

/-- Reads a number with an optional sign. -/
def read? : List Char → Option Binary64
  | '-' :: cs => readUnsigned? true cs
  | '+' :: cs => readUnsigned? false cs
  | cs => readUnsigned? false cs

end Binary64

end VideoPlan.Number
