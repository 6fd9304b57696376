import VideoPlan.Text.Offset

/-!
# Byte offsets between characters

An offset can be used exactly where it is the length of a part before it (`splitAtByte?_eq_some_iff`). Behind a
part of a text offsets count as at its start (`dropBytes?_append`), and one byte further is behind a character only
if that is short (`dropBytes?_one`).
-/

namespace VideoPlan.Text

theorem byteLength_append (before after : List Char) :
    byteLength (before ++ after) = byteLength before + byteLength after := by
  induction before with
  | nil => exact (Nat.zero_add _).symm
  | cons c before ih => rw [List.cons_append, byteLength, byteLength, ih, Nat.add_assoc]

theorem byteLength_pos {cs : List Char} (filled : cs ≠ []) : 0 < byteLength cs := by
  cases cs with
  | nil => exact absurd rfl filled
  | cons c cs => exact Nat.add_pos_left c.utf8Size_pos _

/-- The length of a text is the number of bytes that hold it. -/
theorem byteLength_toList (text : String) : byteLength text.toList = text.utf8ByteSize := by
  suffices ofList : ∀ cs, byteLength cs = (String.ofList cs).utf8ByteSize by
    rw [ofList, String.ofList_toList]
  intro cs
  induction cs with
  | nil => rfl
  | cons c cs ih =>
    rw [byteLength, ih, ← List.singleton_append, String.ofList_append, String.utf8ByteSize_append,
      ← String.singleton_eq_ofList, String.utf8ByteSize_singleton]

theorem splitAtByte?_cons (offset : Nat) (c : Char) (rest : List Char) :
    splitAtByte? (c.utf8Size + offset) (c :: rest) =
      (splitAtByte? offset rest).map fun (before, after) => (c :: before, after) := by
  obtain ⟨more, sum⟩ := Nat.exists_eq_add_one.mpr (Nat.add_pos_left c.utf8Size_pos offset)
  have behind : more + 1 - c.utf8Size = offset := by omega
  rw [sum, splitAtByte?, if_pos (by omega), behind]

/-- An offset splits a text exactly where that many bytes come before it. -/
theorem splitAtByte?_eq_some_iff {offset : Nat} {cs before after : List Char} :
    splitAtByte? offset cs = some (before, after) ↔ cs = before ++ after ∧ byteLength before = offset := by
  constructor
  · intro split
    fun_induction splitAtByte? offset cs generalizing before with
    | case1 cs =>
      cases split
      exact ⟨rfl, rfl⟩
    | case2 => cases split
    | case3 offset c rest fits ih =>
      obtain ⟨⟨inner, _⟩, split, same⟩ := Option.map_eq_some_iff.mp split
      cases same
      obtain ⟨rfl, length⟩ := ih split
      exact ⟨rfl, by rw [byteLength, length]; omega⟩
    | case4 => cases split
  · rintro ⟨rfl, rfl⟩
    induction before with
    | nil => cases after <;> rfl
    | cons c before ih =>
      rw [byteLength, List.cons_append, splitAtByte?_cons, ih]
      rfl

/-- Behind a part of a text offsets count on. -/
theorem dropBytes?_append (before cs : List Char) (offset : Nat) :
    dropBytes? (byteLength before + offset) (before ++ cs) = dropBytes? offset cs := by
  induction before with
  | nil => rw [byteLength, Nat.zero_add, List.nil_append]
  | cons c before ih =>
    rw [← ih, byteLength, Nat.add_assoc, List.cons_append, dropBytes?, splitAtByte?_cons, Option.map_map]
    rfl

theorem dropBytes?_byteLength (before after : List Char) :
    dropBytes? (byteLength before) (before ++ after) = some after :=
  Option.map_eq_some_iff.mpr ⟨(before, after), splitAtByte?_eq_some_iff.mpr ⟨rfl, rfl⟩, rfl⟩

/-- Between the bytes before a part of a text and those with it the part itself is found. -/
theorem sliceBytes?_append (before part behind : List Char) :
    sliceBytes? (byteLength before) (byteLength before + byteLength part) (before ++ part ++ behind) = some part := by
  have cut : splitAtByte? (byteLength before + byteLength part) (before ++ part ++ behind) =
      some (before ++ part, behind) := splitAtByte?_eq_some_iff.mpr ⟨rfl, byteLength_append before part⟩
  rw [sliceBytes?, cut]
  exact dropBytes?_byteLength before part

/-- One byte further is behind a character exactly if it takes one byte. -/
theorem dropBytes?_one (c : Char) (rest : List Char) :
    dropBytes? 1 (c :: rest) = if c.utf8Size = 1 then some rest else none := by
  have positive := c.utf8Size_pos
  split
  · rename_i short
    have behind := dropBytes?_byteLength [c] rest
    rw [byteLength, byteLength, short] at behind
    exact behind
  · rename_i wide
    rw [dropBytes?, splitAtByte?, if_neg (by omega), Option.map_none]

/-- A character takes one byte exactly if it is ASCII. -/
theorem utf8Size_eq_one_iff (c : Char) : c.utf8Size = 1 ↔ c.toNat < 128 := by
  rw [Char.utf8Size_eq_one_iff, UInt32.le_iff_toNat_le]
  exact Nat.lt_succ_iff.symm

end VideoPlan.Text
