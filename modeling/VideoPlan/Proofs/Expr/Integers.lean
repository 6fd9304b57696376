import VideoPlan.Proofs.Number.Numeral

/-!
# Integers with their signs

An integer is written as its digits, under a minus if it is negative; parentheses and plus signs may stand around
both. The digits are read before the sign is looked at, and they decide: up to 96 bits nothing is lost, but digits
above the largest integer of 64 bits are a decimal number (`exists_readNumber?_digits`). A minus in front of them does
not change that (`ofSql_of_writes`), also where it makes them the smallest integer of 64 bits
(`smallest_bound_to_float`).

Main statement: `integers_bound_exactly`.
-/

namespace VideoPlan

open Number

/-- How an integer is written: as its digits, under a minus if it is negative, with any parentheses and plus signs
around the digits and around the minus. -/
inductive Sql.Expr.Writes : Sql.Expr → Int → Prop
  | digits (n : Nat) (long : Bool) : Writes (.constant (.number (toString n) long)) n
  | minus {sql : Sql.Expr} {n : Nat} (positive : 0 < n) (written : Writes sql n) :
      Writes (.unary .minus sql) (-n)
  | plus {sql : Sql.Expr} {i : Int} (written : Writes sql i) : Writes (.unary .plus sql) i
  | nested {sql : Sql.Expr} {i : Int} (written : Writes sql i) : Writes (.nested sql) i

/-! ## Exact values -/

/-- The exact value of a decimal number. -/
def Number.Decimal.amount (d : Decimal) : Rat :=
  mkRat (if d.negative then -d.mantissa else d.mantissa) (Nat.pow 10 d.scale)

/-- The exact value of an integer or of a decimal number. -/
def Scalar.amount? : Scalar → Option Rat
  | .integer value => some (mkRat value.toInt 1)
  | .decimal value => some value.amount
  | _ => none

/-- The exact value of an integer or of a decimal number under any minus signs. -/
def Expr.amount? : Expr → Option Rat
  | .literal value => value.amount?
  | .unary .negate operand => operand.amount?.map Rat.neg
  | _ => none

/-! ## Digits of integers -/

namespace Number

/-- The digits of a number start with zero only if there is no other one. -/
theorem toDigits_of_head {n : Nat} (zero : (Nat.toDigits 10 n).head? = some '0') :
    Nat.toDigits 10 n = ['0'] := by
  have all : ∀ c ∈ Nat.toDigits 10 n, c.isDigit = true := by
    intro c member
    exact Nat.isDigit_of_mem_toDigits (by decide) (by decide) member
  have read := ofDigits_toDigits n
  cases digits : Nat.toDigits 10 n with
  | nil => exact absurd digits Nat.toDigits_ne_nil
  | cons c rest =>
    rw [digits] at zero all read
    obtain rfl : c = '0' := Option.some.inj zero
    cases rest with
    | nil => rfl
    | cons d rest =>
      -- without the zero the digits are still those of `n`, but there are fewer of them
      have same : ofDigits (d :: rest) = n := read
      have padded := replicate_append_toDigits (List.cons_ne_nil d rest) (List.forall_mem_cons.mp all).2
      have shorter := congrArg List.length padded
      rw [same, digits] at shorter
      simp only [List.length_append, List.length_replicate, List.length_cons] at shorter
      omega

/-- The numeral of a number, which has no places. -/
def Numeral.ofNat (n : Nat) : Numeral where
  whole := Nat.toDigits 10 n
  places := []
  all_isDigit := by
    rw [List.append_nil, List.all_eq_true]
    intro c member
    exact Nat.isDigit_of_mem_toDigits (by decide) (by decide) member
  whole_ne_nil := Nat.toDigits_ne_nil
  noLeadingZero := toDigits_of_head
  places_le := Nat.zero_le 28

theorem Numeral.text_ofNat (n : Nat) : (ofNat n).text = toString n :=
  Nat.toString_eq_ofList_toDigits.symm

theorem Numeral.mantissa_ofNat (n : Nat) : (ofNat n).mantissa = n := by
  rw [mantissa_of_noPlaces rfl]
  exact ofDigits_toDigits n

end Number

/-! ## Binding -/

namespace Expr

/-- The type that digits have: INTEGER as long as 64 bits hold them with a sign. -/
def digitsType (n : Nat) : ColumnType :=
  if n ≤ Nat.pow 2 63 - 1 then .integer else .float

/-- Digits are read exactly. -/
theorem exists_readNumber?_digits {n : Nat} (fits : n < mantissaLimit) :
    ∃ value, readNumber? (toString n) = some value ∧ value.amount? = some (mkRat n 1) ∧
      value.type? = some (digitsType n) := by
  have text := Numeral.text_ofNat n
  have mantissa := Numeral.mantissa_ofNat n
  by_cases small : n ≤ Nat.pow 2 63 - 1
  · have le : ((Numeral.ofNat n).mantissa : Int) ≤ Int64.maxValue.toInt := by
      rw [mantissa]
      exact (le_maxValue_iff n).mpr small
    obtain ⟨value, read, same⟩ := readNumber?_integer (Numeral.ofNat n) rfl le
    rw [text] at read
    rw [mantissa] at same
    refine ⟨.integer value, read, ?_, ?_⟩
    · show some (mkRat value.toInt 1) = _
      rw [same]
    · show some ColumnType.integer = _
      rw [digitsType, if_pos small]
  · have fits : (Numeral.ofNat n).mantissa < mantissaLimit := by
      rw [mantissa]
      exact fits
    have other : ¬ ((Numeral.ofNat n).places = [] ∧
        ((Numeral.ofNat n).mantissa : Int) ≤ Int64.maxValue.toInt) := by
      rintro ⟨-, le⟩
      rw [mantissa] at le
      exact small ((le_maxValue_iff n).mp le)
    have read := readNumber?_decimal (Numeral.ofNat n) fits other
    rw [text] at read
    refine ⟨.decimal ((Numeral.ofNat n).decimal fits), read, ?_, ?_⟩
    · show some (mkRat ((Numeral.ofNat n).mantissa : Int) 1) = _
      rw [mantissa]
    · show some ColumnType.float = _
      rw [digitsType, if_neg small]

theorem ofSql_digits {n : Nat} (fits : n < mantissaLimit) (long : Bool) (scope : Option Scope) :
    ∃ value : Scalar, ofSql scope (.constant (.number (toString n) long)) = .ok (.literal value) ∧
      value.amount? = some (mkRat n 1) ∧ value.type? = some (digitsType n) := by
  obtain ⟨value, read, amount, type⟩ := exists_readNumber?_digits fits
  refine ⟨value, ?_, amount, type⟩
  show ofValue (.number (toString n) long) = _
  rw [ofValue, read]

/-- What writes an integer is bound exactly, whatever the scope, and to the type of its digits. Induction on how it is
written: parentheses and plus signs leave no trace, and a minus keeps the type of what it stands before. -/
theorem ofSql_of_writes {sql : Sql.Expr} {i : Int} (written : sql.Writes i) (fits : i.natAbs < mantissaLimit)
    (scope : Option Scope) :
    ∃ expr, ofSql scope sql = .ok expr ∧ expr.amount? = some (mkRat i 1) ∧
      expr.type? = some (digitsType i.natAbs) := by
  induction written with
  | digits n long =>
    obtain ⟨value, bound, amount, type⟩ := ofSql_digits fits long scope
    exact ⟨.literal value, bound, amount, type⟩
  | @minus sql n positive written ih =>
    rw [Int.natAbs_neg] at fits ⊢
    obtain ⟨expr, bound, amount, type⟩ := ih fits
    refine ⟨.unary .negate expr, ?_, ?_, type⟩
    · rw [ofSql, bound]
      rfl
    · rw [amount?, amount]
      show some (-mkRat n 1) = _
      rw [Rat.neg_mkRat]
  | plus written ih =>
    obtain ⟨expr, bound, known⟩ := ih fits
    refine ⟨expr, ?_, known⟩
    rw [ofSql, bound]
    rfl
  | nested written ih =>
    obtain ⟨expr, bound, known⟩ := ih fits
    refine ⟨expr, ?_, known⟩
    rw [ofSql, bound]

theorem exists_writes (i : Int) : ∃ sql : Sql.Expr, sql.Writes i := by
  cases i with
  | ofNat n => exact ⟨_, .digits n false⟩
  | negSucc n => exact ⟨_, .minus (Nat.succ_pos n) (.digits (n + 1) false)⟩

/-! ## Integers of 64 bits -/

theorem natAbs_toInt_le (i : Int64) : i.toInt.natAbs ≤ 9223372036854775808 := by
  have low : -9223372036854775808 ≤ i.toInt := Int64.le_toInt i
  have high : i.toInt < 9223372036854775808 := Int64.toInt_lt i
  omega

/-- Of the integers of 64 bits only the smallest one has digits that 64 bits with a sign do not hold. -/
theorem digitsType_toInt (i : Int64) :
    digitsType i.toInt.natAbs = if i = Int64.minValue then .float else .integer := by
  by_cases same : i = Int64.minValue
  · subst same
    rfl
  · have differs : i.toInt ≠ -9223372036854775808 := by
      intro equal
      exact same (Int64.toInt_inj.mp equal)
    have high : i.toInt < 9223372036854775808 := Int64.toInt_lt i
    have bound := natAbs_toInt_le i
    have small : i.toInt.natAbs ≤ 9223372036854775807 := by omega
    rw [if_neg same]
    exact if_pos small

/-- Each integer of 64 bits can be written, and whatever writes it is bound to an expression whose exact value it
is. This has type INTEGER, unless it is the smallest integer: that one has type FLOAT. -/
theorem integers_bound_exactly (i : Int64) :
    (∃ sql : Sql.Expr, sql.Writes i.toInt) ∧
    ∀ (sql : Sql.Expr) (scope : Option Scope), sql.Writes i.toInt →
      ∃ expr, ofSql scope sql = .ok expr ∧ expr.amount? = some (mkRat i.toInt 1) ∧
        expr.type? = some (if i = Int64.minValue then .float else .integer) := by
  refine ⟨exists_writes i.toInt, ?_⟩
  intro sql scope written
  have bound := natAbs_toInt_le i
  have fits : i.toInt.natAbs < mantissaLimit := by
    unfold mantissaLimit
    omega
  rw [← digitsType_toInt]
  exact ofSql_of_writes written fits scope

/-- The integer next to the smallest one is an INTEGER, with a plus inside of the parentheses around its digits and
another one in front of all. -/
theorem integers_bound_exactly_secondSmallest :
    let i : Int64 := -9223372036854775807
    let sql : Sql.Expr :=
      .unary .plus (.unary .minus (.nested (.unary .plus (.constant (.number "9223372036854775807" false)))))
    sql.Writes i.toInt ∧ ∃ expr, ofSql none sql = .ok expr ∧
      expr.amount? = some (mkRat (-9223372036854775807) 1) ∧ expr.type? = some .integer := by
  intro i sql
  have digits : toString 9223372036854775807 = "9223372036854775807" := by decide +kernel
  have written : sql.Writes i.toInt := by
    have inner := Sql.Expr.Writes.digits 9223372036854775807 false
    rw [digits] at inner
    exact .plus (.minus (by decide) (.nested (.plus inner)))
  obtain ⟨-, exactly⟩ := integers_bound_exactly i
  exact ⟨written, exactly sql none written⟩

/-- The digits of the smallest integer are one more than the largest integer, so they are a decimal number, and a
minus in front of them does not change that. -/
theorem smallest_bound_to_float :
    let sql : Sql.Expr := .unary .minus (.constant (.number "9223372036854775808" false))
    sql.Writes Int64.minValue.toInt ∧ ∃ expr, ofSql none sql = .ok expr ∧ expr.type? = some .float ∧
      expr.type? ≠ some .integer := by
  intro sql
  have digits : toString 9223372036854775808 = "9223372036854775808" := by decide +kernel
  refine ⟨?_, _, rfl, ?_⟩
  · have inner := Sql.Expr.Writes.digits 9223372036854775808 false
    rw [digits] at inner
    exact .minus (by decide) inner
  · decide +kernel

end Expr

end VideoPlan
