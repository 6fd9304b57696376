import VideoPlan.Console.Completion
import VideoPlan.Proofs.Text.Offset

/-!
# Where completion fails

The word before the cursor is sought one byte behind the start of the last character that ends a word. That is
inside of this character if it takes more than one byte, as some blanks do (`complete?_eq`). The other offset in
use, behind a word that expects a table, always lies between characters (`afterLast?_eq_some_iff`).

Main statement: `complete?_fails_behind_wide_ends`.
-/

namespace VideoPlan.Console

open Text

/-! ## The word before the cursor -/

/-- A text ends with a word, before which it is empty or a character ends a word. -/
structure LastWord (text lead word : List Char) : Prop where
  split : text = lead ++ word
  inside : ∀ c ∈ word, endsWord c = false
  ends : ∀ last ∈ lead.getLast?, endsWord last = true

instance (text lead word : List Char) : Decidable (LastWord text lead word) :=
  decidable_of_iff
    (text = lead ++ word ∧ word.all (endsWord · = false) = true ∧ lead.getLast?.all endsWord = true) <| by
      simp only [List.all_eq_true, decide_eq_true_eq, Option.all_eq_true]
      exact ⟨fun ⟨split, inside, ends⟩ => ⟨split, inside, ends⟩, fun ⟨split, inside, ends⟩ => ⟨split, inside, ends⟩⟩

/-- Every text ends with a word, which may be empty; by induction on the text, since the last character that ends a
word is the first one if there is none behind it. -/
theorem exists_lastWord (text : List Char) : ∃ lead word, LastWord text lead word := by
  induction text with
  | nil => exact ⟨[], [], rfl, nofun, nofun⟩
  | cons c text ih =>
    obtain ⟨lead, word, rfl, inside, ends⟩ := ih
    cases lead with
    | cons first lead => exact ⟨c :: first :: lead, word, rfl, inside, by rwa [List.getLast?_cons_cons]⟩
    | nil =>
      cases ending : endsWord c with
      | true => exact ⟨[c], word, rfl, inside, by rintro _ ⟨rfl⟩; exact ending⟩
      | false => exact ⟨[], c :: word, rfl, List.forall_mem_cons.mpr ⟨ending, inside⟩, nofun⟩

theorem afterLastEnd?_of_inside {word : List Char} (inside : ∀ c ∈ word, endsWord c = false) (offset : Nat) :
    afterLastEnd? offset word = none := by
  induction word generalizing offset with
  | nil => rfl
  | cons c word ih =>
    obtain ⟨first, others⟩ := List.forall_mem_cons.mp inside
    rw [afterLastEnd?, ih others]
    exact if_neg (Bool.eq_false_iff.mp first)

theorem afterLastEnd?_append {last : Char} (ends : endsWord last = true) {word : List Char}
    (inside : ∀ c ∈ word, endsWord c = false) (lead : List Char) (offset : Nat) :
    afterLastEnd? offset (lead ++ last :: word) = some (offset + byteLength lead + 1) := by
  induction lead generalizing offset with
  | nil =>
    rw [List.nil_append, afterLastEnd?, afterLastEnd?_of_inside inside]
    exact if_pos ends
  | cons c lead ih => rw [List.cons_append, afterLastEnd?, ih, byteLength, ← Nat.add_assoc]

/-- The last word of a text is found unless a wide character comes before it. -/
theorem dropBytes?_wordStart {text lead word : List Char} (last : LastWord text lead word) :
    (dropBytes? (wordStart text) text).map (wordStart text, ·) =
      if lead.getLast?.all (·.toNat < 128) then some (byteLength lead, word) else none := by
  obtain ⟨rfl, inside, ends⟩ := last
  cases final : lead.getLast? with
  | none =>
    obtain rfl := List.getLast?_eq_none_iff.mp final
    have start : wordStart word = 0 := by rw [wordStart, afterLastEnd?_of_inside inside]; rfl
    rw [List.nil_append, start]
    exact congrArg _ (dropBytes?_byteLength [] word)
  | some last =>
    obtain ⟨before, rfl⟩ := List.getLast?_eq_some_iff.mp final
    have start : wordStart (before ++ last :: word) = byteLength before + 1 := by
      rw [wordStart, afterLastEnd?_append (ends last final) inside, Nat.zero_add]
      rfl
    rw [List.append_assoc, List.singleton_append, start, dropBytes?_append, dropBytes?_one]
    simp only [utf8Size_eq_one_iff, Option.all_some, decide_eq_true_eq]
    split
    · rename_i short
      rw [byteLength_append, byteLength, byteLength, (utf8Size_eq_one_iff last).mpr short]
      rfl
    · rfl

/-! ## The text behind a word -/

/-- An occurrence of a text behind which there is no other one. -/
structure LastAt (wanted text lead rest : List Char) : Prop where
  split : text = lead ++ wanted ++ rest
  last : ∀ lead' rest', text = lead' ++ wanted ++ rest' → lead'.length ≤ lead.length

theorem LastAt.unique {wanted text lead rest lead' rest' : List Char} (last : LastAt wanted text lead rest)
    (last' : LastAt wanted text lead' rest') : rest = rest' := by
  have same := Nat.le_antisymm (last'.last _ _ last.split) (last.last _ _ last'.split)
  have split := last.split.symm.trans last'.split
  rw [List.append_assoc, List.append_assoc] at split
  exact List.append_cancel_left (List.append_inj split same).2

theorem afterLast?_eq_none_iff {wanted text : List Char} : afterLast? wanted text = none ↔ ¬ wanted <:+: text := by
  induction text with
  | nil => cases wanted <;> simp [afterLast?]
  | cons c text ih =>
    rw [afterLast?, List.infix_cons_iff, not_or, ← ih]
    cases afterLast? wanted text with
    | some found => simp
    | none => simp

/-- What follows the last occurrence follows it, and no other one; by induction on the text. -/
theorem lastAt_of_afterLast? {wanted text rest : List Char} (found : afterLast? wanted text = some rest) :
    ∃ lead, LastAt wanted text lead rest := by
  induction text with
  | nil =>
    unfold afterLast? at found
    split at found
    · rename_i empty
      obtain rfl := List.isEmpty_iff.mp empty
      cases found
      refine ⟨[], rfl, fun lead' rest' split => ?_⟩
      obtain ⟨rfl, -⟩ := List.append_eq_nil_iff.mp (List.append_eq_nil_iff.mp split.symm).1
      exact Nat.le_refl 0
    · cases found
  | cons c text ih =>
    unfold afterLast? at found
    cases later : afterLast? wanted text with
    | some rest' =>
      rw [later] at found
      cases found
      obtain ⟨lead, split, last⟩ := ih later
      refine ⟨c :: lead, by rw [split]; rfl, fun lead' rest' split' => ?_⟩
      cases lead' with
      | nil => exact Nat.zero_le _
      | cons _ lead' => exact Nat.succ_le_succ (last lead' rest' (List.cons.inj split').2)
    | none =>
      rw [later] at found
      dsimp only at found
      split at found
      · rename_i starts
        cases found
        -- there is no occurrence in the text behind `c`, so none is later than the one at `c`
        obtain ⟨rest, split⟩ := List.isPrefixOf_iff_prefix.mp starts
        refine ⟨[], ?_, fun lead' rest' split' => ?_⟩
        · rw [← split, List.drop_left, List.nil_append]
        · cases lead' with
          | nil => exact Nat.le_refl 0
          | cons _ lead' =>
            exact absurd ⟨lead', rest', (List.cons.inj split').2.symm⟩ (afterLast?_eq_none_iff.mp later)
      · cases found

theorem afterLast?_eq_some_iff {wanted text rest : List Char} :
    afterLast? wanted text = some rest ↔ ∃ lead, LastAt wanted text lead rest := by
  refine ⟨lastAt_of_afterLast?, ?_⟩
  rintro ⟨lead, last⟩
  cases found : afterLast? wanted text with
  | none => exact absurd ⟨lead, rest, last.split.symm⟩ (afterLast?_eq_none_iff.mp found)
  | some rest' =>
    obtain ⟨lead', last'⟩ := lastAt_of_afterLast? found
    rw [last.unique last']

/-- The offset behind an occurrence lies between characters. -/
theorem LastAt.dropBytes? {wanted text lead rest : List Char} (last : LastAt wanted text lead rest) :
    Text.dropBytes? (byteLength lead + byteLength wanted) text = some rest := by
  rw [last.split, ← byteLength_append]
  exact dropBytes?_byteLength (lead ++ wanted) rest

theorem expectsTable_iff {line : List Char} :
    expectsTable line = true ↔ ∃ word ∈ ["from", "into", "table"], ∃ lead rest,
      LastAt word.toList line lead rest ∧ (words rest).length ≤ 1 := by
  unfold expectsTable
  rw [List.any_eq_true]
  refine exists_congr fun word => and_congr_right fun _ => ?_
  rw [exists_comm]
  simp only [← afterLast?_eq_some_iff, exists_and_right]
  cases afterLast? word.toList line with
  | none => simp
  | some rest => simp

/-! ## Completion -/

variable (tables : Tables) (line : String) {cursor : Nat}

theorem complete?_eq {before after lead word : List Char} (split : line.toList = before ++ after)
    (boundary : byteLength before = cursor) (last : LastWord before lead word) :
    complete? tables line cursor =
      if lead.getLast?.all (·.toNat < 128) then some (byteLength lead, candidates tables before word) else none := by
  have cut := splitAtByte?_eq_some_iff.mpr ⟨split, boundary⟩
  have completed : complete? tables line cursor =
      ((Text.dropBytes? (wordStart before) before).map (wordStart before, ·)).map
        fun found => (found.1, candidates tables before found.2) := by
    unfold complete?
    rw [cut]
    show (Text.dropBytes? (wordStart before) before).bind _ = _
    cases Text.dropBytes? (wordStart before) before <;> rfl
  rw [completed, dropBytes?_wordStart last]
  split <;> rfl

/-- From a cursor between characters completion fails exactly if a character that takes more than one byte ends the
word before the last one. Else it answers the start of that word and what may stand for it. The text behind the
last `from`, `into` or `table` of the line in lower case is always found at its offset. -/
theorem complete?_fails_behind_wide_ends {before after : List Char} (split : line.toList = before ++ after)
    (boundary : byteLength before = cursor) :
    (∃ lead word, LastWord before lead word) ∧
    (∀ lead word, LastWord before lead word →
      complete? tables line cursor =
        if lead.getLast?.all (·.toNat < 128) then some (byteLength lead, candidates tables before word) else none) ∧
    let lowered := (lowercase (String.ofList before)).toList
    (∀ word ∈ ["from", "into", "table"], ∀ lead rest, LastAt word.toList lowered lead rest →
      Text.dropBytes? (byteLength lead + byteLength word.toList) lowered = some rest) ∧
    (expectsTable lowered = true ↔ ∃ word ∈ ["from", "into", "table"], ∃ lead rest,
      LastAt word.toList lowered lead rest ∧ (words rest).length ≤ 1) :=
  ⟨exists_lastWord before, fun _ _ => complete?_eq tables line split boundary,
    fun _ _ _ _ last => last.dropBytes?, expectsTable_iff⟩

/-- A wide character in a word does not matter, and a wide blank does not if another character ends the word. -/
theorem complete?_fails_behind_wide_ends_select :
    byteLength "é\u3000, se".toList = 9 ∧
      complete? [] "é\u3000, se" 9 = some (7, [⟨"SELECT", "select"⟩]) ∧
      byteLength "é\u3000se".toList = 7 ∧ complete? [] "é\u3000se" 7 = none := by
  have plain : LastWord "é\u3000, se".toList "é\u3000, ".toList "se".toList := by
    decide +kernel
  have wide : LastWord "é\u3000se".toList "é\u3000".toList "se".toList := by
    decide +kernel
  have found := complete?_fails_behind_wide_ends [] "é\u3000, se" (List.append_nil _).symm (Eq.refl 9)
  have failed := complete?_fails_behind_wide_ends [] "é\u3000se" (List.append_nil _).symm (Eq.refl 7)
  refine ⟨by decide +kernel, ?_, by decide +kernel, ?_⟩
  · rw [found.2.1 _ _ plain]
    decide +kernel
  · rw [failed.2.1 _ _ wide]
    decide +kernel

/-- The cursor is at the end of the line, but one byte behind the start of the blank there is no word. -/
theorem complete?_none_behind_no_break_space :
    byteLength "\u00a0se".toList = 4 ∧ "\u00a0se".utf8ByteSize = 4 ∧ complete? [] "\u00a0se" 4 = none := by
  decide +kernel

end VideoPlan.Console
