import VideoPlan.Number.Binary64

/-!
# The shortest text of a floating-point number

A number is written with the fewest digits that read back as the same number; of several such texts the
nearest to the exact value is taken, and the larger one of two at the same distance. There is never an
exponent: zeros fill the places up to the point.
-/

namespace VideoPlan.Number

/-- The exact value of a positive number and the reals that round to it, as multiples of `1 / den`. -/
structure RoundingInterval where
  low : Nat
  value : Nat
  high : Nat
  den : Nat
  /-- Whether the two ends round to the number too. -/
  closed : Bool

namespace RoundingInterval

/-- Whether the interval holds `point`. -/
def contains (interval : RoundingInterval) (point : Nat) : Bool :=
  if interval.closed then interval.low ≤ point && point ≤ interval.high
  else interval.low < point && point < interval.high

/-- The interval in units so small that the grid of multiples of `10 ^ exponent` has whole steps, with
the step. -/
def onGrid (interval : RoundingInterval) (exponent : Int) : RoundingInterval × Nat :=
  if 0 ≤ exponent then (interval, interval.den * Nat.pow 10 exponent.toNat)
  else
    let factor := Nat.pow 10 (-exponent).toNat
    (⟨interval.low * factor, interval.value * factor, interval.high * factor, interval.den,
      interval.closed⟩, interval.den)

/-- The multiple of `10 ^ exponent` in the interval that is nearest to the value. -/
def nearestOnGrid? (interval : RoundingInterval) (exponent : Int) : Option Nat :=
  let (fine, step) := interval.onGrid exponent
  let below := fine.value / step
  let distance := fine.value % step
  let lowFits := fine.contains (below * step)
  let highFits := fine.contains ((below + 1) * step)
  if lowFits && (!highFits || 2 * distance < step) then some below
  else if highFits then some (below + 1)
  else none

/-- The first grid with a point in the interval, from `10 ^ exponent` to finer ones. -/
def shortestFrom? (interval : RoundingInterval) : Nat → Int → Option (Nat × Int)
  | 0, _ => none
  | grids + 1, exponent =>
    match interval.nearestOnGrid? exponent with
    | some digits => some (digits, exponent)
    | none => interval.shortestFrom? grids (exponent - 1)

end RoundingInterval

namespace Binary64

/-- The interval of the positive finite number with these bits. -/
def interval (magnitude : Nat) : RoundingInterval :=
  let field := magnitude >>> 52
  let fraction := magnitude % (1 <<< 52)
  let mantissa := if field = 0 then fraction else fraction + (1 <<< 52)
  let exponent : Int := (max field 1 : Nat) - 1077
  let gapBelow := if fraction = 0 && 1 < field then 1 else 2
  let up := if 0 ≤ exponent then 1 <<< exponent.toNat else 1
  let den := if 0 ≤ exponent then 1 else 1 <<< (-exponent).toNat
  ⟨(4 * mantissa - gapBelow) * up, 4 * mantissa * up, (4 * mantissa + 2) * up, den,
    mantissa % 2 = 0⟩

/-- The fewest digits of a positive finite number and the power of ten that they count. -/
def shortestDigits (magnitude : Nat) : Nat × Int :=
  ((interval magnitude).shortestFrom? 640 309).getD (0, 0)

/-- The text of a number that is zero or positive and finite. -/
def magnitudeText (magnitude : Nat) : List Char :=
  if magnitude = 0 then ['0']
  else
    let (digits, exponent) := shortestDigits magnitude
    if 0 ≤ exponent then digitsOf digits ++ List.replicate exponent.toNat '0'
    else withPoint (digitsOf digits) (-exponent).toNat

/-- The text of a number. -/
def text (x : Binary64) : String :=
  if infinityBits < x.magnitude then "NaN"
  else
    let unsigned := if x.magnitude = infinityBits then ['i', 'n', 'f'] else magnitudeText x.magnitude
    String.ofList (if x.negative then '-' :: unsigned else unsigned)

end Binary64

end VideoPlan.Number
