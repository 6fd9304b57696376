import VideoPlan.Proofs.Number.Digits

/-!
# Lines of texts

A text is unbroken if it has no line break. Texts that are put together from unbroken ones are unbroken, and so are
numbers of all kinds. Unbroken lines, each with its end, are found again in the text that they make
(`splitOn_lines`).
-/

namespace VideoPlan

namespace Text

/-- There is no line break in the text. -/
def Unbroken (text : String) : Prop :=
  '\n' ∉ text.toList

instance (text : String) : Decidable (Unbroken text) :=
  inferInstanceAs (Decidable (_ ∉ _))

@[simp] theorem unbroken_append (text text' : String) :
    Unbroken (text ++ text') ↔ Unbroken text ∧ Unbroken text' := by
  unfold Unbroken
  rw [String.toList_append, List.mem_append, not_or]

/-- A text is unbroken if all its characters are of a kind that line breaks are not of. -/
theorem unbroken_of_forall {text : String} (part : Char → Prop) (noBreak : ¬ part '\n')
    (parts : ∀ c ∈ text.toList, part c) : Unbroken text := by
  intro member
  exact noBreak (parts '\n' member)

theorem unbroken_intercalate {separator : String} (between : Unbroken separator) {texts : List String}
    (unbroken : ∀ text ∈ texts, Unbroken text) : Unbroken (separator.intercalate texts) := by
  induction texts with
  | nil =>
    rw [String.intercalate_nil]
    decide
  | cons text texts ih =>
    obtain ⟨first, others⟩ := List.forall_mem_cons.mp unbroken
    cases texts with
    | nil =>
      rw [String.intercalate_singleton]
      exact first
    | cons next texts =>
      rw [String.intercalate_cons_cons, unbroken_append, unbroken_append]
      exact ⟨⟨first, between⟩, ih others⟩

theorem unbroken_commaList {texts : List String} (unbroken : ∀ text ∈ texts, Unbroken text) :
    Unbroken (commaList texts) :=
  unbroken_intercalate (by decide) unbroken

/-! ## Numbers -/

theorem unbroken_nat (n : Nat) : Unbroken (toString n) := by
  apply unbroken_of_forall (fun c => c.isDigit = true) (by decide)
  intro c member
  exact Number.isDigit_of_mem_toString member

theorem unbroken_integer (n : Int) : Unbroken (toString n) := by
  apply unbroken_of_forall (fun c => c.isDigit = true ∨ c = '-') (by decide)
  intro c member
  exact Expr.mem_toString_integer member

/-- What numbers are written with: digits, and points between them. -/
def isNumberPart (c : Char) : Bool :=
  c.isDigit || c = '.'

theorem isNumberPart_digitsOf (n : Nat) : ∀ c ∈ Number.digitsOf n, isNumberPart c = true := by
  intro c member
  have digit : c.isDigit = true := Nat.isDigit_of_mem_toDigits (by decide) (by decide) member
  rw [isNumberPart, digit]
  rfl

theorem isNumberPart_withPoint {digits : List Char} (places : Nat)
    (parts : ∀ c ∈ digits, isNumberPart c = true) :
    ∀ c ∈ Number.withPoint digits places, isNumberPart c = true := by
  unfold Number.withPoint
  split
  · exact parts
  · have padded : ∀ c ∈ List.replicate (places + 1 - digits.length) '0' ++ digits,
        isNumberPart c = true := by
      intro c member
      rcases List.mem_append.mp member with zero | digit
      · rw [List.eq_of_mem_replicate zero]
        rfl
      · exact parts c digit
    intro c member
    simp only [List.mem_append, List.mem_cons] at member
    rcases member with before | rfl | behind
    · exact padded c (List.mem_of_mem_take before)
    · rfl
    · exact padded c (List.mem_of_mem_drop behind)

theorem unbroken_decimal (d : Number.Decimal) : Unbroken d.text := by
  apply unbroken_of_forall (fun c => isNumberPart c = true ∨ c = '-') (by decide)
  intro c member
  rw [Number.Decimal.text, String.toList_ofList] at member
  rcases List.mem_append.mp member with sign | digit
  · split at sign
    · exact .inr (List.mem_singleton.mp sign)
    · cases sign
  · exact .inl (isNumberPart_withPoint d.scale (isNumberPart_digitsOf d.mantissa) c digit)

theorem isNumberPart_magnitudeText (magnitude : Nat) :
    ∀ c ∈ Number.Binary64.magnitudeText magnitude, isNumberPart c = true := by
  unfold Number.Binary64.magnitudeText
  split
  · intro c member
    rw [List.mem_singleton.mp member]
    rfl
  · generalize Number.Binary64.shortestDigits magnitude = found
    dsimp only
    split
    · intro c member
      rcases List.mem_append.mp member with digit | zero
      · exact isNumberPart_digitsOf found.1 c digit
      · rw [List.eq_of_mem_replicate zero]
        rfl
    · exact isNumberPart_withPoint _ (isNumberPart_digitsOf found.1)

theorem unbroken_float (x : Number.Binary64) : Unbroken x.text := by
  unfold Number.Binary64.text
  split
  · decide
  · -- the words for infinity have no line break either
    have unsigned : '\n' ∉ if x.magnitude = Number.Binary64.infinityBits then ['i', 'n', 'f']
        else Number.Binary64.magnitudeText x.magnitude := by
      split
      · decide
      · intro member
        exact absurd (isNumberPart_magnitudeText _ _ member) (by decide)
    unfold Unbroken
    rw [String.toList_ofList]
    split
    · intro member
      rcases List.mem_cons.mp member with same | member
      · cases same
      · exact unsigned member
    · exact unsigned

/-! ## Lines -/

/-- Unbroken lines are found between the line breaks of their text, and behind the last one nothing. -/
theorem splitOn_lines {lines : List String} (unbroken : ∀ line ∈ lines, Unbroken line) :
    (String.join (lines.map (· ++ "\n"))).toList.splitOn '\n' = lines.map String.toList ++ [[]] := by
  induction lines with
  | nil => rfl
  | cons line lines ih =>
    obtain ⟨first, others⟩ := List.forall_mem_cons.mp unbroken
    have inside : ∀ c ∈ line.toList, (c == '\n') = false := by
      intro c member
      rw [beq_eq_false_iff_ne]
      rintro rfl
      exact first member
    have text : (String.join ((line :: lines).map (· ++ "\n"))).toList =
        line.toList ++ '\n' :: (String.join (lines.map (· ++ "\n"))).toList := by
      rw [List.map_cons, String.join_cons, String.toList_append, String.toList_append,
        List.append_assoc]
      rfl
    rw [text, List.splitOn, List.splitOnP_append_cons_of_forall_mem inside '\n' (by decide)]
    show _ :: List.splitOn '\n' _ = _
    rw [ih others]
    rfl

end Text

end VideoPlan
