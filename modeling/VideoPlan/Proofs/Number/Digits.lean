import VideoPlan.Binding

/-!
# Digits are read back

The digits that write a number are read as this number (`readNat?_toString`), with a sign as an integer
(`readInteger?_toString`). The other way round, a number writes the digits that it was read from, but for zeros in
front of them (`toDigits_ofDigits`, `replicate_append_toDigits`).
-/

namespace VideoPlan

namespace Number

theorem isDigit_of_mem_toString {n : Nat} {c : Char} (member : c ∈ (toString n).toList) : c.isDigit = true :=
  Nat.isDigit_of_mem_toDigits (by decide) (by decide) (Nat.toList_repr ▸ member)

theorem readNat?_digits {digits : List Char} (nonempty : digits ≠ [])
    (all : ∀ c ∈ digits, c.isDigit = true) : readNat? digits = some (ofDigits digits) := by
  unfold readNat?
  split
  · exact absurd (all '+' List.mem_cons_self) (by decide)
  · exact if_pos (List.all_eq_true.mpr all)
  · exact absurd rfl nonempty

theorem ofDigits_toDigits (n : Nat) : ofDigits (Nat.toDigits 10 n) = n := by
  have step : (fun (m : Nat) c => m * 10 + digitValue c) = fun m c => 10 * m + (c.toNat - '0'.toNat) := by
    funext m c
    rw [Nat.mul_comm, digitValue]
  rw [ofDigits, step]
  exact Nat.ofDigitChars_ten_toDigits

theorem ofDigits_toString (n : Nat) : ofDigits (toString n).toList = n :=
  (congrArg ofDigits Nat.toList_repr).trans (ofDigits_toDigits n)

theorem toString_ne_nil (n : Nat) : (toString n).toList ≠ [] :=
  Nat.toList_repr ▸ Nat.toDigits_ne_nil

/-- The digits of a number are read as this number. -/
theorem readNat?_toString (n : Nat) : readNat? (toString n).toList = some n := by
  rw [readNat?_digits (toString_ne_nil n) fun _ => isDigit_of_mem_toString, ofDigits_toString]

/-! ## Numbers write their digits

Digits that were read are written again, but for zeros in front of them. -/

/-- The number that digits write behind those of `n`. -/
def appendDigits (n : Nat) (digits : List Char) : Nat :=
  digits.foldl (fun n c => n * 10 + digitValue c) n

theorem ofDigits_append (digits digits' : List Char) :
    ofDigits (digits ++ digits') = appendDigits (ofDigits digits) digits' :=
  List.foldl_append

theorem le_appendDigits (n : Nat) (digits : List Char) : n ≤ appendDigits n digits := by
  induction digits generalizing n with
  | nil => exact Nat.le_refl n
  | cons c digits ih =>
    have step : n ≤ n * 10 + digitValue c := by omega
    exact Nat.le_trans step (ih _)

section

variable {c : Char} {digits : List Char}

theorem digitValue_lt (digit : c.isDigit = true) : digitValue c < 10 := by
  have bounds : 48 ≤ c.toNat ∧ c.toNat ≤ 57 := Char.isDigit_iff_toNat.mp digit
  have zero : '0'.toNat = 48 := rfl
  unfold digitValue
  omega

theorem digitChar_digitValue (digit : c.isDigit = true) : Nat.digitChar (digitValue c) = c := by
  have bounds : 48 ≤ c.toNat ∧ c.toNat ≤ 57 := Char.isDigit_iff_toNat.mp digit
  have zero : '0'.toNat = 48 := rfl
  apply Char.toNat_inj.mp
  rw [Nat.toNat_digitChar_of_lt_ten (digitValue_lt digit), digitValue]
  omega

theorem digitValue_pos (digit : c.isDigit = true) (notZero : c ≠ '0') : 0 < digitValue c := by
  rw [Nat.pos_iff_ne_zero]
  intro isZero
  have same := digitChar_digitValue digit
  rw [isZero] at same
  exact notZero same.symm

theorem toDigits_digitValue (digit : c.isDigit = true) : Nat.toDigits 10 (digitValue c) = [c] := by
  rw [Nat.toDigits_of_lt_base (digitValue_lt digit), digitChar_digitValue digit]

/-- Digits behind a number that is not zero are written behind its digits. -/
theorem toDigits_appendDigits {n : Nat} (positive : 0 < n) (all : ∀ c ∈ digits, c.isDigit = true) :
    Nat.toDigits 10 (appendDigits n digits) = Nat.toDigits 10 n ++ digits := by
  induction digits generalizing n with
  | nil => exact (List.append_nil _).symm
  | cons c digits ih =>
    obtain ⟨digit, all⟩ := List.forall_mem_cons.mp all
    have next : 0 < n * 10 + digitValue c := by omega
    calc Nat.toDigits 10 (appendDigits n (c :: digits))
        = Nat.toDigits 10 (10 * n + digitValue c) ++ digits := by
          rw [Nat.mul_comm]
          exact ih next all
      _ = Nat.toDigits 10 n ++ Nat.toDigits 10 (digitValue c) ++ digits := by
          rw [Nat.toDigits_append_toDigits (by decide) positive (digitValue_lt digit)]
      _ = Nat.toDigits 10 n ++ c :: digits := by
          rw [toDigits_digitValue digit, List.append_assoc, List.singleton_append]

/-- Digits without a zero in front of them are those of their number. -/
theorem toDigits_ofDigits (notZero : c ≠ '0') (all : ∀ d ∈ c :: digits, d.isDigit = true) :
    Nat.toDigits 10 (ofDigits (c :: digits)) = c :: digits := by
  obtain ⟨digit, all⟩ := List.forall_mem_cons.mp all
  have first : ofDigits [c] = digitValue c := Nat.zero_add _
  have behind : ofDigits (c :: digits) = appendDigits (digitValue c) digits := by
    rw [← first]
    exact ofDigits_append [c] digits
  rw [behind, toDigits_appendDigits (digitValue_pos digit notZero) all, toDigits_digitValue digit]
  rfl

/-- The digits of a number have the same length as the digits that it was read from, once zeros are put in front of
them, and then they are the same. -/
theorem replicate_append_toDigits (nonempty : digits ≠ []) (all : ∀ c ∈ digits, c.isDigit = true) :
    List.replicate (digits.length - (Nat.toDigits 10 (ofDigits digits)).length) '0' ++
      Nat.toDigits 10 (ofDigits digits) = digits := by
  induction digits with
  | nil => exact absurd rfl nonempty
  | cons c digits ih =>
    by_cases isZero : c = '0'
    · subst isZero
      cases digits with
      | nil => rfl
      | cons d digits =>
        have padded := ih (List.cons_ne_nil d digits) (List.forall_mem_cons.mp all).2
        -- a zero in front does not change the number
        have same : ofDigits ('0' :: d :: digits) = ofDigits (d :: digits) := rfl
        have shorter := congrArg List.length padded
        rw [List.length_append, List.length_replicate] at shorter
        rw [same, List.length_cons, Nat.succ_sub (by omega), List.replicate_succ, List.cons_append, padded]
    · rw [toDigits_ofDigits isZero all, Nat.sub_self]
      rfl

end

end Number

namespace Expr

open Number

theorem readDigits?_toString (n : Nat) : readDigits? (toString n).toList = some n := by
  have digits : (toString n).toList.all Char.isDigit = true :=
    List.all_eq_true.mpr fun _ => isDigit_of_mem_toString
  rw [readDigits?, digits, List.isEmpty_eq_false_iff.mpr (toString_ne_nil n), ofDigits_toString]
  rfl

theorem fitInteger?_toInt (value : Int64) : fitInteger? value.toInt = some value := by
  rw [fitInteger?, Int64.ofInt_toInt]
  exact if_pos rfl

/-- Behind a digit there is no sign to look for. -/
theorem readInteger?_of_unsigned {c : Char} {rest : List Char} (digit : c.isDigit = true) :
    readInteger? (c :: rest) = (readDigits? (c :: rest)).bind fun n => fitInteger? n := by
  unfold readInteger?
  split
  · rename_i starts
    cases (List.cons.inj starts).1
    cases digit
  · rename_i starts
    cases (List.cons.inj starts).1
    cases digit
  · rfl

/-- An integer that plans show is read as this integer. -/
theorem readInteger?_toString (value : Int64) : readInteger? (toString value.toInt).toList = some value := by
  have fits := fitInteger?_toInt value
  cases sign : value.toInt with
  | negSucc n =>
    have shown : (toString (Int.negSucc n)).toList = '-' :: (toString (n + 1)).toList := String.toList_append
    rw [sign] at fits
    rw [shown, readInteger?, readDigits?_toString, Option.bind_eq_bind, Option.bind_some]
    rw [Int.negSucc_eq] at fits
    exact fits
  | ofNat n =>
    rw [sign] at fits
    have shown : (toString (Int.ofNat n)).toList = (toString n).toList := rfl
    obtain ⟨c, rest, starts⟩ := List.exists_cons_of_ne_nil (toString_ne_nil n)
    have digit : c.isDigit = true := isDigit_of_mem_toString (starts ▸ List.mem_cons_self)
    have read := readDigits?_toString n
    rw [starts] at read
    rw [shown, starts, readInteger?_of_unsigned digit, read]
    exact fits

/-- An integer is written with digits and a minus. -/
theorem mem_toString_integer {value : Int} {c : Char} (member : c ∈ (toString value).toList) :
    c.isDigit = true ∨ c = '-' := by
  cases value with
  | ofNat n => exact .inl (isDigit_of_mem_toString member)
  | negSucc n =>
    have shown : (toString (Int.negSucc n)).toList = '-' :: (toString (n + 1)).toList := String.toList_append
    rw [shown] at member
    rcases List.mem_cons.mp member with rfl | digit
    · exact .inr rfl
    · exact .inl (isDigit_of_mem_toString digit)

theorem toString_integer_ne_nil (value : Int) : (toString value).toList ≠ [] := by
  cases value with
  | ofNat n => exact toString_ne_nil n
  | negSucc n =>
    have shown : (toString (Int.negSucc n)).toList = '-' :: (toString (n + 1)).toList := String.toList_append
    rw [shown]
    exact List.cons_ne_nil _ _

end Expr

end VideoPlan
