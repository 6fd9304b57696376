import VideoPlan.Proofs.Text.Casing

/-!
# Words of texts

A text is blanks and words, and its words are read off from its start: what stands before the first blank is a word
unless it is empty (`words_append_cons`). Lower-casing does not see over blanks, so the words of a text in lower case
are its words, each of them in lower case (`words_lowerAfter`).
-/

namespace VideoPlan.Text

/-- There are no blanks in the text. -/
def Blankless (cs : List Char) : Prop :=
  ∀ c ∈ cs, isBlank c = false

theorem wordsAfter_append {cs : List Char} (blankless : Blankless cs) (word rest : List Char) :
    wordsAfter word (cs ++ rest) = wordsAfter (cs.reverse ++ word) rest := by
  induction cs generalizing word with
  | nil => rfl
  | cons c cs ih =>
    obtain ⟨first, others⟩ := List.forall_mem_cons.mp blankless
    rw [List.cons_append, wordsAfter, if_neg (Bool.eq_false_iff.mp first), ih others, List.reverse_cons,
      List.append_assoc]
    rfl

/-- A text without blanks is one word, or none if it is empty. -/
theorem words_of_blankless {cs : List Char} (blankless : Blankless cs) :
    words cs = if cs = [] then [] else [cs] := by
  have all := wordsAfter_append blankless [] []
  rw [List.append_nil, List.append_nil] at all
  rw [words, all, wordsAfter, List.reverse_reverse]
  simp

/-- The word before a blank, and those behind it. -/
theorem words_append_cons {cs : List Char} (blankless : Blankless cs) {c : Char} (blank : isBlank c = true)
    (rest : List Char) : words (cs ++ c :: rest) = (if cs = [] then [] else [cs]) ++ words rest := by
  rw [words, wordsAfter_append blankless, List.append_nil, wordsAfter, if_pos blank, List.reverse_reverse]
  by_cases empty : cs = []
  · rw [empty]
    rfl
  · rw [if_neg empty, if_neg (by simpa using empty)]
    rfl

/-- A text has a first blank, or none. -/
theorem blankless_or_exists (cs : List Char) :
    Blankless cs ∨ ∃ word c rest, cs = word ++ c :: rest ∧ Blankless word ∧ isBlank c = true := by
  induction cs with
  | nil => exact .inl nofun
  | cons c cs ih =>
    cases blank : isBlank c with
    | true => exact .inr ⟨[], c, cs, rfl, nofun, blank⟩
    | false =>
      rcases ih with blankless | ⟨word, c', rest, rfl, blankless, blank'⟩
      · exact .inl (List.forall_mem_cons.mpr ⟨blank, blankless⟩)
      · exact .inr ⟨c :: word, c', rest, rfl, List.forall_mem_cons.mpr ⟨blank, blankless⟩, blank'⟩

theorem Blankless.lowerAfter {cs : List Char} (blankless : Blankless cs) : Blankless (lowerAfter [] cs) := by
  intro d member
  rcases isLowered_or_of_mem_lowerAfter member with lowered | ⟨kept, -⟩
  · exact lowered.notBlank
  · exact blankless d kept

theorem lowerAfter_word (word : List Char) :
    (if lowerAfter [] word = [] then [] else [lowerAfter [] word]) =
      (if word = [] then [] else [word]).map (lowerAfter []) := by
  simp only [lowerAfter_eq_nil]
  split <;> rfl

/-- The words of a text in lower case, by recursion on what follows its first blank. -/
theorem words_lowerAfter (cs : List Char) : words (lowerAfter [] cs) = (words cs).map (lowerAfter []) := by
  rcases blankless_or_exists cs with blankless | ⟨word, c, rest, split, blankless, blank⟩
  · rw [words_of_blankless blankless, words_of_blankless blankless.lowerAfter, lowerAfter_word]
  · have shorter : rest.length < cs.length := by
      rw [split, List.length_append, List.length_cons]
      omega
    rw [split, lowerAfter_append_cons (parting_of_isBlank blank), words_append_cons blankless blank,
      words_append_cons blankless.lowerAfter blank, words_lowerAfter rest, lowerAfter_word, List.map_append]
termination_by cs.length

end VideoPlan.Text
