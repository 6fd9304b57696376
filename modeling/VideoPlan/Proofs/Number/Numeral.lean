import Mathlib.Data.List.TakeDrop
import Mathlib.Data.List.TakeWhile
import VideoPlan.Proofs.Number.Digits

/-!
# Numerals

A numeral in normal form has no zeros in front that say nothing, and its places are those behind the point. It is
read without loss as long as its digits, read as one number, have 96 bits: as an integer of 64 bits if it can be
one, else as a decimal number with the same digits and places (`read?_chars`). Shown again it is the same
numeral (`text_decimal`, `shown_integer`).

Main statement: `numeral_bound_exactly`.
-/

namespace VideoPlan

namespace Number

/-- A number as it is written: digits, and behind a point up to 28 more. Without places there is no point. -/
structure Numeral where
  whole : List Char
  places : List Char
  all_isDigit : (whole ++ places).all Char.isDigit = true
  whole_ne_nil : whole ≠ []
  /-- Zero stands in front of the point only alone. -/
  noLeadingZero : whole.head? = some '0' → whole = ['0']
  places_le : places.length ≤ 28

namespace Numeral

/-- The characters of a numeral. -/
def chars (numeral : Numeral) : List Char :=
  if numeral.places = [] then numeral.whole else numeral.whole ++ '.' :: numeral.places

/-- The text of a numeral. -/
def text (numeral : Numeral) : String :=
  String.ofList numeral.chars

/-- All digits, read as one number. -/
def mantissa (numeral : Numeral) : Nat :=
  ofDigits (numeral.whole ++ numeral.places)

/-- The decimal number with the digits and the places of a numeral. -/
def decimal (numeral : Numeral) (fits : numeral.mantissa < mantissaLimit) : Decimal :=
  ⟨false, numeral.mantissa, numeral.places.length, fits, numeral.places_le⟩

variable (numeral : Numeral)

theorem mantissa_of_noPlaces {numeral : Numeral} (noPlaces : numeral.places = []) :
    numeral.mantissa = ofDigits numeral.whole := by
  rw [mantissa, noPlaces, List.append_nil]

theorem isDigit : ∀ c ∈ numeral.whole ++ numeral.places, c.isDigit = true :=
  List.all_eq_true.mp numeral.all_isDigit

theorem isDigit_whole : ∀ c ∈ numeral.whole, c.isDigit = true :=
  (List.forall_mem_append.mp numeral.isDigit).1

theorem isDigit_places : ∀ c ∈ numeral.places, c.isDigit = true :=
  (List.forall_mem_append.mp numeral.isDigit).2

/-- A numeral starts with a digit, which is zero only if there is nothing else in front of the point. -/
theorem whole_cases : numeral.whole = ['0'] ∨ ∃ c rest, numeral.whole = c :: rest ∧ c ≠ '0' := by
  cases split : numeral.whole with
  | nil => exact absurd split numeral.whole_ne_nil
  | cons c rest =>
    by_cases isZero : c = '0'
    · have alone := numeral.noLeadingZero
      rw [split, isZero] at alone
      rw [isZero]
      exact .inl (alone rfl)
    · exact .inr ⟨c, rest, rfl, isZero⟩

end Numeral

/-! ## Reading decimal numbers -/

namespace Decimal

section

variable {negative seenPoint seenDigit : Bool} {mantissa scale : Nat} {rest : List Char}

/-- A digit is read while there is room for it. -/
theorem readFrom?_digit {c : Char} (digit : c.isDigit = true) (room : seenPoint = true → scale < 28)
    (fits : mantissa * 10 + digitValue c < mantissaLimit) :
    readFrom? negative seenPoint seenDigit mantissa scale (c :: rest) =
      readFrom? negative seenPoint true (mantissa * 10 + digitValue c)
        (if seenPoint then scale + 1 else scale) rest := by
  have notFull : ¬ (seenPoint && decide (28 ≤ scale)) = true := by
    simpa using room
  rw [readFrom?, if_neg notFull, if_pos digit]
  exact if_pos fits

theorem readFrom?_digits {digits : List Char} (all : ∀ c ∈ digits, c.isDigit = true)
    (room : seenPoint = true → scale + digits.length ≤ 28)
    (fits : appendDigits mantissa digits < mantissaLimit) :
    readFrom? negative seenPoint seenDigit mantissa scale (digits ++ rest) =
      readFrom? negative seenPoint (seenDigit || !digits.isEmpty) (appendDigits mantissa digits)
        (if seenPoint then scale + digits.length else scale) rest := by
  induction digits generalizing seenDigit mantissa scale with
  | nil => simp [appendDigits]
  | cons c digits ih =>
    obtain ⟨digit, all⟩ := List.forall_mem_cons.mp all
    have next : mantissa * 10 + digitValue c < mantissaLimit :=
      Nat.lt_of_le_of_lt (le_appendDigits _ digits) fits
    rw [List.length_cons] at room
    have roomNow : seenPoint = true → scale < 28 := fun seen => by
      have := room seen
      omega
    rw [List.cons_append, readFrom?_digit digit roomNow next, ih all _ fits]
    · cases seenPoint <;> simp [appendDigits, Nat.add_assoc, Nat.add_comm 1]
    · intro seen
      have := room seen
      rw [if_pos seen]
      omega

theorem ofParts?_of_fits (fits : mantissa < mantissaLimit) (room : scale ≤ 28) :
    ofParts? false mantissa scale = some ⟨false, mantissa, scale, fits, room⟩ :=
  dif_pos ⟨fits, room⟩

end

/-- A text that starts with a digit and has no exponent is read as it stands. -/
theorem read?_of_unsigned {c : Char} {rest : List Char} (digit : c.isDigit = true)
    (plain : ∀ d ∈ c :: rest, (d != 'e' && d != 'E') = true) :
    read? (c :: rest) = readFrom? false false false 0 0 (c :: rest) := by
  have whole : (c :: rest).span (fun d => d != 'e' && d != 'E') = (c :: rest, []) := by
    rw [List.span_eq_takeWhile_dropWhile, List.takeWhile_eq_self_iff.mpr plain,
      List.dropWhile_eq_nil_iff.mpr plain]
  rw [read?, whole]
  show readPlain? (c :: rest) = _
  unfold readPlain?
  split
  · rename_i starts
    cases (List.cons.inj starts).1
    cases digit
  · rename_i starts
    cases (List.cons.inj starts).1
    cases digit
  · rfl

end Decimal

namespace Numeral

variable (numeral : Numeral)

theorem isPlain_chars : ∀ c ∈ numeral.chars, (c != 'e' && c != 'E') = true := by
  have digitOrPoint : ∀ c ∈ numeral.chars, c.isDigit = true ∨ c = '.' := by
    have digits := numeral.isDigit
    simp only [List.mem_append] at digits
    unfold chars
    intro c member
    split at member
    · exact .inl (digits c (.inl member))
    · simp only [List.mem_append, List.mem_cons] at member
      rcases member with member | rfl | member
      · exact .inl (digits c (.inl member))
      · exact .inr rfl
      · exact .inl (digits c (.inr member))
  intro c member
  rcases digitOrPoint c member with digit | rfl
  · rw [Bool.and_eq_true, bne_iff_ne, bne_iff_ne]
    constructor <;> (rintro rfl; cases digit)
  · rfl

section

variable (fits : numeral.mantissa < mantissaLimit)
include fits

/-- The number in front of the point is read first. -/
theorem readFrom?_whole (rest : List Char) :
    Decimal.readFrom? false false false 0 0 (numeral.whole ++ rest) =
      Decimal.readFrom? false false true (ofDigits numeral.whole) 0 rest := by
  have noPoint : false = true → 0 + numeral.whole.length ≤ 28 := fun seen => nomatch seen
  have whole_fits : appendDigits 0 numeral.whole < mantissaLimit := by
    refine Nat.lt_of_le_of_lt ?_ fits
    rw [mantissa, ofDigits_append]
    exact le_appendDigits _ _
  have nonempty : (false || !numeral.whole.isEmpty) = true := by
    simp [numeral.whole_ne_nil]
  rw [Decimal.readFrom?_digits numeral.isDigit_whole noPoint whole_fits, nonempty]
  rfl

theorem readFrom?_places :
    Decimal.readFrom? false true true (ofDigits numeral.whole) 0 numeral.places =
      some (numeral.decimal fits) := by
  have room : true = true → 0 + numeral.places.length ≤ 28 := fun _ => by
    rw [Nat.zero_add]
    exact numeral.places_le
  have all : appendDigits (ofDigits numeral.whole) numeral.places = numeral.mantissa :=
    (ofDigits_append _ _).symm
  have read : Decimal.readFrom? false true true (ofDigits numeral.whole) 0 (numeral.places ++ []) =
      Decimal.ofParts? false _ _ :=
    Decimal.readFrom?_digits numeral.isDigit_places room (all ▸ fits)
  rw [List.append_nil] at read
  rw [read, all, if_pos rfl, Nat.zero_add]
  exact Decimal.ofParts?_of_fits fits numeral.places_le

/-- A numeral whose digits have 96 bits is read as a decimal number with these digits and places. -/
theorem read?_chars :
    Decimal.read? numeral.chars = some (numeral.decimal fits) := by
  obtain ⟨c, rest, starts⟩ := List.exists_cons_of_ne_nil numeral.whole_ne_nil
  have digit : c.isDigit = true := numeral.isDigit_whole c (starts ▸ List.mem_cons_self)
  have unsigned : Decimal.read? numeral.chars =
      Decimal.readFrom? false false false 0 0 numeral.chars := by
    have first : ∃ behind, numeral.chars = c :: behind := by
      unfold chars
      rw [starts]
      split <;> exact ⟨_, rfl⟩
    have plain := numeral.isPlain_chars
    obtain ⟨behind, isFirst⟩ := first
    rw [isFirst] at plain ⊢
    exact Decimal.read?_of_unsigned digit plain
  have places := numeral.readFrom?_places fits
  rw [unsigned]
  unfold chars
  split
  · rename_i noPlaces
    have read := numeral.readFrom?_whole fits []
    rw [List.append_nil] at read
    rw [noPlaces] at places
    exact read.trans places
  · exact (numeral.readFrom?_whole fits _).trans places

end

/-! ## Showing numbers -/

theorem toDigits_whole : Nat.toDigits 10 (ofDigits numeral.whole) = numeral.whole := by
  rcases numeral.whole_cases with zero | ⟨c, rest, starts, notZero⟩
  · rw [zero]
    rfl
  · have all := numeral.isDigit_whole
    rw [starts] at all ⊢
    exact toDigits_ofDigits notZero all

/-- With zeros in front, so that there is a digit before the point, the digits are those of the numeral. -/
theorem replicate_append_mantissa :
    List.replicate (numeral.places.length + 1 - (digitsOf numeral.mantissa).length) '0' ++
      digitsOf numeral.mantissa = numeral.whole ++ numeral.places := by
  have all := numeral.isDigit
  unfold mantissa digitsOf
  rcases numeral.whole_cases with zero | ⟨c, rest, starts, notZero⟩
  · rw [zero] at all ⊢
    exact replicate_append_toDigits (List.cons_ne_nil '0' numeral.places) all
  · -- there are more digits than places, and no zeros are needed
    rw [starts, List.cons_append] at all ⊢
    have enough : numeral.places.length + 1 - (c :: (rest ++ numeral.places)).length = 0 := by
      rw [List.length_cons, List.length_append]
      omega
    rw [toDigits_ofDigits notZero all, enough]
    rfl

theorem withPoint_mantissa : withPoint (digitsOf numeral.mantissa) numeral.places.length = numeral.chars := by
  unfold withPoint chars
  by_cases noPlaces : numeral.places = []
  · rw [if_pos noPlaces, if_pos (List.length_eq_zero_iff.mpr noPlaces), digitsOf, mantissa_of_noPlaces noPlaces]
    exact numeral.toDigits_whole
  · have before : (numeral.whole ++ numeral.places).length - numeral.places.length = numeral.whole.length := by
      rw [List.length_append]
      omega
    rw [if_neg noPlaces, if_neg fun none => noPlaces (List.length_eq_zero_iff.mp none)]
    simp only [replicate_append_mantissa, before, List.take_left, List.drop_left]

/-- The number of a numeral is shown as this numeral. -/
theorem text_decimal (fits : numeral.mantissa < mantissaLimit) : (numeral.decimal fits).text = numeral.text := by
  show String.ofList ([] ++ withPoint (digitsOf numeral.mantissa) numeral.places.length) = _
  rw [List.nil_append, withPoint_mantissa]
  rfl

end Numeral

end Number

open Number

namespace Expr

/-! ## Reading integers -/

theorem exists_fitInteger? {n : Int} (low : Int64.minValue.toInt ≤ n) (high : n ≤ Int64.maxValue.toInt) :
    ∃ value, fitInteger? n = some value ∧ value.toInt = n := by
  rw [Int64.toInt_minValue] at low
  rw [Int64.toInt_maxValue] at high
  have same := Int64.toInt_ofInt_of_le low (Int.lt_of_le_sub_one high)
  exact ⟨Int64.ofInt n, if_pos same, same⟩

theorem fitInteger?_eq_none {n : Int} (high : Int64.maxValue.toInt < n) : fitInteger? n = none := by
  refine if_neg fun same => ?_
  have bound := Int64.toInt_le (Int64.ofInt n)
  rw [same] at bound
  exact Int.not_le.mpr high bound

theorem le_maxValue_iff (n : Nat) : (n : Int) ≤ Int64.maxValue.toInt ↔ n ≤ Nat.pow 2 63 - 1 := by
  have largest : Int64.maxValue.toInt = 9223372036854775807 := rfl
  have power : Nat.pow 2 63 - 1 = 9223372036854775807 := rfl
  omega

section

variable (numeral : Numeral)

theorem readInteger?_whole :
    readInteger? numeral.whole = fitInteger? (ofDigits numeral.whole) := by
  have all := numeral.isDigit_whole
  have digits : readDigits? numeral.whole = some (ofDigits numeral.whole) := by
    rw [readDigits?, List.isEmpty_eq_false_iff.mpr numeral.whole_ne_nil, List.all_eq_true.mpr all]
    rfl
  obtain ⟨c, rest, starts⟩ := List.exists_cons_of_ne_nil numeral.whole_ne_nil
  rw [starts] at all digits ⊢
  rw [readInteger?_of_unsigned (all c List.mem_cons_self), digits]
  rfl

/-- A point is part of no integer. -/
theorem readInteger?_point (behind : List Char) : readInteger? (numeral.whole ++ '.' :: behind) = none := by
  have noDigits : readDigits? (numeral.whole ++ '.' :: behind) = none := by
    have point : (numeral.whole ++ '.' :: behind).all Char.isDigit = false := by
      simp [List.all_append]
    rw [readDigits?, point]
    simp
  have all := numeral.isDigit_whole
  obtain ⟨c, rest, starts⟩ := List.exists_cons_of_ne_nil numeral.whole_ne_nil
  rw [starts, List.cons_append] at noDigits
  rw [starts] at all
  rw [starts, List.cons_append, readInteger?_of_unsigned (all c List.mem_cons_self), noDigits]
  rfl

/-- A numeral without places that 64 bits hold is read as an integer. -/
theorem readNumber?_integer (noPlaces : numeral.places = [])
    (small : (numeral.mantissa : Int) ≤ Int64.maxValue.toInt) :
    ∃ value : Int64, readNumber? numeral.text = some (.integer value) ∧ value.toInt = numeral.mantissa := by
  have whole := Numeral.mantissa_of_noPlaces noPlaces
  have low : Int64.minValue.toInt ≤ numeral.mantissa :=
    Int.le_trans (by decide) (Int.natCast_nonneg numeral.mantissa)
  obtain ⟨value, fits, same⟩ := exists_fitInteger? low small
  have read : readInteger? numeral.text.toList = some value := by
    rw [Numeral.text, String.toList_ofList, Numeral.chars, if_pos noPlaces, readInteger?_whole, ← whole, fits]
  refine ⟨value, ?_, same⟩
  rw [readNumber?, read]

/-- Any other numeral whose digits have 96 bits is read as a decimal number. -/
theorem readNumber?_decimal (fits : numeral.mantissa < mantissaLimit)
    (other : ¬ (numeral.places = [] ∧ (numeral.mantissa : Int) ≤ Int64.maxValue.toInt)) :
    readNumber? numeral.text = some (.decimal (numeral.decimal fits)) := by
  have noInteger : readInteger? numeral.chars = none := by
    unfold Numeral.chars
    split
    · rename_i noPlaces
      have whole := Numeral.mantissa_of_noPlaces noPlaces
      rw [readInteger?_whole, ← whole]
      exact fitInteger?_eq_none (Int.not_le.mp fun small => other ⟨noPlaces, small⟩)
    · exact readInteger?_point numeral numeral.places
  rw [readNumber?, Numeral.text, String.toList_ofList, noInteger, numeral.read?_chars fits]

theorem shown_integer (noPlaces : numeral.places = []) {value : Int64}
    (same : value.toInt = numeral.mantissa) : (Scalar.integer value).shown = numeral.text := by
  have whole := Numeral.mantissa_of_noPlaces noPlaces
  have shown : (Scalar.integer value).shown = toString numeral.mantissa := by
    rw [Scalar.shown, same]
    rfl
  rw [shown, Nat.toString_eq_ofList_toDigits, whole, numeral.toDigits_whole, Numeral.text, Numeral.chars,
    if_pos noPlaces]

end

/-! ## Main statement -/

/-- Every numeral whose digits have 96 bits is bound without loss. If it has no places and 64 bits hold it, it
is bound to the integer that it writes, of type INTEGER; else to the decimal number with the same digits and the
same places, of type FLOAT. Shown again it is the same text. -/
theorem numeral_bound_exactly (numeral : Numeral) (fits : numeral.mantissa < Nat.pow 2 96) (long : Bool) :
    ∃ value : Scalar, ofValue (.number numeral.text long) = .ok (.literal value) ∧
      value.shown = numeral.text ∧
      if numeral.places = [] ∧ numeral.mantissa ≤ Nat.pow 2 63 - 1 then
        value.type? = some .integer ∧ ∃ n : Int64, value = .integer n ∧ n.toInt = numeral.mantissa
      else
        value.type? = some .float ∧ ∃ d : Decimal, value = .decimal d ∧ d.negative = false ∧
          d.mantissa = numeral.mantissa ∧ d.scale = numeral.places.length := by
  by_cases whole : numeral.places = [] ∧ numeral.mantissa ≤ Nat.pow 2 63 - 1
  · obtain ⟨noPlaces, small⟩ := whole
    obtain ⟨n, read, same⟩ := readNumber?_integer numeral noPlaces ((le_maxValue_iff _).mpr small)
    refine ⟨.integer n, ?_, shown_integer numeral noPlaces same, ?_⟩
    · rw [ofValue, read]
    · rw [if_pos ⟨noPlaces, small⟩]
      exact ⟨rfl, n, rfl, same⟩
  · have other : ¬ (numeral.places = [] ∧ (numeral.mantissa : Int) ≤ Int64.maxValue.toInt) := by
      rwa [le_maxValue_iff]
    have read := readNumber?_decimal numeral fits other
    refine ⟨.decimal (numeral.decimal fits), ?_, numeral.text_decimal fits, ?_⟩
    · rw [ofValue, read]
    · rw [if_neg whole]
      exact ⟨rfl, numeral.decimal fits, rfl, rfl, rfl, rfl⟩

/-- The largest mantissa with the most places. -/
theorem numeral_bound_exactly_largest :
    let numeral : Numeral :=
      { whole := ['7'], places := "9228162514264337593543950335".toList, all_isDigit := by decide
        whole_ne_nil := by decide, noLeadingZero := by decide, places_le := by decide }
    numeral.mantissa < Nat.pow 2 96 ∧ numeral.text = "7.9228162514264337593543950335" ∧
      ∃ d : Decimal, ofValue (.number numeral.text false) = .ok (.literal (.decimal d)) ∧
        d.mantissa = Nat.pow 2 96 - 1 ∧ d.scale = 28 ∧ d.text = numeral.text := by
  intro numeral
  have fits : numeral.mantissa < Nat.pow 2 96 := by decide
  obtain ⟨value, bound, shown, isDecimal⟩ := numeral_bound_exactly numeral fits false
  rw [if_neg fun none => nomatch none.1] at isDecimal
  obtain ⟨-, d, rfl, -, mantissa, scale⟩ := isDecimal
  exact ⟨fits, rfl, d, bound, mantissa, scale, shown⟩

end Expr

end VideoPlan
