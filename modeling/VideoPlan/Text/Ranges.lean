/-!
# Sets of code points as tables

A property of characters is a list of closed ranges of code points, or of spans that take every
`step`-th code point. The tables are those of the Unicode Character Database, version 17.
-/

namespace VideoPlan.Text

/-- Whether one of the closed ranges holds `n`. -/
def inRanges (ranges : List (Nat × Nat)) (n : Nat) : Bool :=
  ranges.any fun range => range.1 ≤ n && n ≤ range.2

/-- The code points `first, first + step, …, last`. -/
structure Span where
  first : Nat
  last : Nat
  step : Nat

/-- Whether the span holds `n`. -/
def Span.contains (span : Span) (n : Nat) : Bool :=
  span.first ≤ n && n ≤ span.last && (n - span.first) % span.step = 0

/-- Whether one of the spans holds `n`. -/
def inSpans (spans : List Span) (n : Nat) : Bool :=
  spans.any (·.contains n)

end VideoPlan.Text
