import VideoPlan.Console.Pieces
import VideoPlan.Proofs.Text.Offset

/-!
# Every line can be cut

`Piece piece behind` says which characters the piece of a text is, in front of those behind it. Every text starts with
one (`exists_piece`), and the bytes that are counted for it are those of its characters, however many each of them takes
(`Piece.counted`). So the next piece starts between two characters, and further on: whatever cuts a line by pieces is
found by counting bytes (`Cut.piecesFrom?_eq`).

A line is cut before a string as if nothing followed (`Cut.before_quote`), and the string is one piece (`piece_string`).
-/

namespace VideoPlan.Console

open Text

/-! ## Pieces -/

/-- What the characters of a piece are, in front of the rest of the text. -/
inductive Piece : List Char → List Char → Prop
  /-- A string with its closing quote. -/
  | closed {inside : List Char} (unquoted : '\'' ∉ inside) (behind : List Char) :
      Piece ('\'' :: inside ++ ['\'']) behind
  /-- A string that nothing closes. -/
  | unclosed {inside : List Char} (unquoted : '\'' ∉ inside) : Piece ('\'' :: inside) []
  | number {first : Char} {more behind : List Char} (digit : first.isDigit = true)
      (parts : ∀ c ∈ more, isNumberPart c = true) (ends : ∀ c ∈ behind.head?, isNumberPart c = false) :
      Piece (first :: more) behind
  | word {first : Char} {more behind : List Char} (digit : first.isDigit = false) (start : isNameStart first = true)
      (parts : ∀ c ∈ more, isNamePart c = true) (ends : ∀ c ∈ behind.head?, isNamePart c = false) :
      Piece (first :: more) behind
  /-- Any other character. -/
  | single {first : Char} (quote : first ≠ '\'') (digit : first.isDigit = false) (start : isNameStart first = false)
      (behind : List Char) : Piece [first] behind

theorem Piece.ne_nil {piece behind : List Char} (cut : Piece piece behind) : piece ≠ [] := by
  cases cut <;> exact List.cons_ne_nil _ _

/-- The longest part of a text with `p` in front. -/
theorem exists_span (p : Char → Bool) (cs : List Char) :
    ∃ more behind, cs = more ++ behind ∧ (∀ c ∈ more, p c = true) ∧ ∀ c ∈ behind.head?, p c = false := by
  refine ⟨cs.takeWhile p, cs.dropWhile p, List.takeWhile_append_dropWhile.symm,
    List.all_eq_true.mp List.all_takeWhile, ?_⟩
  intro c first
  have ends := List.head?_dropWhile_not p cs
  rw [Option.mem_def.mp first] at ends
  exact ends

theorem exists_piece {text : List Char} (filled : text ≠ []) :
    ∃ piece behind, text = piece ++ behind ∧ Piece piece behind := by
  obtain ⟨first, rest, rfl⟩ := List.exists_cons_of_ne_nil filled
  by_cases quote : first = '\''
  · subst quote
    obtain ⟨inside, behind, rfl, parts, ends⟩ := exists_span (· != '\'') rest
    have unquoted : '\'' ∉ inside := fun member => Bool.false_ne_true (parts _ member)
    cases behind with
    | nil => exact ⟨'\'' :: inside, [], by simp, .unclosed unquoted⟩
    | cons c behind =>
      obtain rfl : c = '\'' := by simpa using ends c rfl
      exact ⟨'\'' :: inside ++ ['\''], behind, by simp, .closed unquoted behind⟩
  · cases digit : first.isDigit with
    | true =>
      obtain ⟨more, behind, rfl, parts, ends⟩ := exists_span isNumberPart rest
      exact ⟨first :: more, behind, rfl, .number digit parts ends⟩
    | false =>
      cases start : isNameStart first with
      | true =>
        obtain ⟨more, behind, rfl, parts, ends⟩ := exists_span isNamePart rest
        exact ⟨first :: more, behind, rfl, .word digit start parts ends⟩
      | false => exact ⟨[first], rest, rfl, .single quote digit start rest⟩

/-! ## Bytes of pieces -/

theorem findByte?_eq_none {p : Char → Bool} {cs : List Char} (without : ∀ c ∈ cs, p c = false) :
    findByte? p cs = none := by
  induction cs with
  | nil => rfl
  | cons c cs ih =>
    obtain ⟨first, others⟩ := List.forall_mem_cons.mp without
    rw [findByte?, if_neg (Bool.eq_false_iff.mp first), ih others, Option.map_none]

/-- The offset of the first character with `p` counts those before it. -/
theorem findByte?_append {p : Char → Bool} {before : List Char} {c : Char} (without : ∀ d ∈ before, p d = false)
    (found : p c = true) (behind : List Char) : findByte? p (before ++ c :: behind) = some (byteLength before) := by
  induction before with
  | nil => exact if_pos found
  | cons d before ih =>
    obtain ⟨first, others⟩ := List.forall_mem_cons.mp without
    rw [List.cons_append, findByte?, if_neg (Bool.eq_false_iff.mp first), ih others]
    rfl

theorem spanBytes_append {p : Char → Bool} (first : Char) {more behind : List Char} (parts : ∀ c ∈ more, p c = true)
    (ends : ∀ c ∈ behind.head?, p c = false) :
    spanBytes p (first :: (more ++ behind)) = byteLength (first :: more) := by
  have without : ∀ c ∈ more, (!p c) = false := by
    intro c member
    rw [parts c member]
    rfl
  rw [spanBytes]
  cases behind with
  | nil => rw [List.append_nil, findByte?_eq_none without]
  | cons c behind =>
    rw [findByte?_append without (by rw [ends c rfl]; rfl)]
    rfl

theorem dropBytes?_quote (rest : List Char) : dropBytes? 1 ('\'' :: rest) = some rest := by
  rw [dropBytes?_one]
  exact if_pos rfl

theorem isDigit_ne_quote {c : Char} (digit : c.isDigit = true) : c ≠ '\'' := by
  rintro rfl
  cases digit

theorem isNameStart_ne_quote {c : Char} (start : isNameStart c = true) : c ≠ '\'' := by
  rintro rfl
  exact absurd start (by decide +kernel)

/-- The bytes that are counted for a piece are those of its characters. -/
theorem Piece.counted {piece behind : List Char} (cut : Piece piece behind) :
    pieceBytes? (piece ++ behind) = some (byteLength piece) := by
  have without {inside : List Char} (unquoted : '\'' ∉ inside) : ∀ c ∈ inside, decide (c = '\'') = false := by
    intro c member
    exact decide_eq_false fun same => unquoted (same ▸ member)
  cases cut with
  | @closed inside unquoted behind =>
    have found := findByte?_append (p := (· = '\'')) (c := '\'') (without unquoted) rfl behind
    rw [List.append_assoc, List.singleton_append, List.cons_append, pieceBytes?, if_pos rfl, dropBytes?_quote,
      Option.map_some, found, byteLength_append]
    -- a quote takes one byte
    show some (byteLength inside + 2) = some (1 + byteLength inside + (1 + 0))
    congr 1
    omega
  | @unclosed inside unquoted =>
    rw [List.append_nil, pieceBytes?, if_pos rfl, dropBytes?_quote, Option.map_some,
      findByte?_eq_none (without unquoted)]
  | @number first more behind digit parts ends =>
    rw [List.cons_append, pieceBytes?, if_neg (isDigit_ne_quote digit), if_pos digit, spanBytes_append first parts ends]
  | @word first more behind digit start parts ends =>
    rw [List.cons_append, pieceBytes?, if_neg (isNameStart_ne_quote start), if_neg (Bool.eq_false_iff.mp digit),
      if_pos start, spanBytes_append first parts ends]
  | single quote digit start behind =>
    rw [List.singleton_append, pieceBytes?, if_neg quote, if_neg (Bool.eq_false_iff.mp digit),
      if_neg (Bool.eq_false_iff.mp start)]
    rfl

/-! ## Lines -/

/-- The text is cut into these pieces, one behind the other. -/
inductive Cut : List Char → List (List Char) → Prop
  | nil : Cut [] []
  | cons {piece behind : List Char} {pieces : List (List Char)} :
      Piece piece behind → Cut behind pieces → Cut (piece ++ behind) (piece :: pieces)

/-- Every text can be cut, by recursion on what is behind its first piece. -/
theorem exists_cut (text : List Char) : ∃ pieces, Cut text pieces := by
  by_cases empty : text = []
  · exact ⟨[], empty ▸ .nil⟩
  · obtain ⟨piece, behind, split, cut⟩ := exists_piece empty
    have shorter : behind.length < text.length := by
      have filled := List.length_pos_iff.mpr cut.ne_nil
      rw [split, List.length_append]
      omega
    obtain ⟨pieces, cuts⟩ := exists_cut behind
    exact ⟨piece :: pieces, split ▸ .cons cut cuts⟩
termination_by text.length

theorem piecesFrom?_end (line : List Char) : piecesFrom? line (byteLength line) = some [] := by
  unfold piecesFrom?
  exact if_neg (Nat.lt_irrefl _)

/-- A step cuts one piece, and goes on behind it. -/
theorem piecesFrom?_step (before : List Char) {piece behind : List Char} (cut : Piece piece behind) :
    piecesFrom? (before ++ (piece ++ behind)) (byteLength before) =
      (piecesFrom? (before ++ piece ++ behind) (byteLength (before ++ piece))).map (piece :: ·) := by
  have grows := byteLength_pos cut.ne_nil
  have inside : byteLength before < byteLength (before ++ (piece ++ behind)) := by
    rw [byteLength_append, byteLength_append]
    omega
  have sliced : splitAtByte? (byteLength piece) (piece ++ behind) = some (piece, behind) :=
    splitAtByte?_eq_some_iff.mpr ⟨rfl, rfl⟩
  rw [piecesFrom?, if_pos inside, dropBytes?_byteLength, byteLength_append, List.append_assoc]
  simp only [Option.bind_eq_bind, Option.bind_some, cut.counted, sliced, if_pos grows]

/-- From between two characters the line is cut up to its end. -/
theorem Cut.piecesFrom?_eq {text : List Char} {pieces : List (List Char)} (cuts : Cut text pieces)
    (before : List Char) : piecesFrom? (before ++ text) (byteLength before) = some pieces := by
  induction cuts generalizing before with
  | nil =>
    rw [List.append_nil]
    exact piecesFrom?_end before
  | @cons piece behind pieces cut _ ih => rw [piecesFrom?_step before cut, ih (before ++ piece), Option.map_some]

/-- Every line is cut. -/
theorem isSome_piecesFrom? (line : List Char) : (piecesFrom? line 0).isSome = true := by
  obtain ⟨pieces, cuts⟩ := exists_cut line
  exact Option.isSome_of_mem (cuts.piecesFrom?_eq [])

theorem Cut.flatten_eq {text : List Char} {pieces : List (List Char)} (cuts : Cut text pieces) :
    pieces.flatten = text := by
  induction cuts with
  | nil => rfl
  | cons _ _ ih => rw [List.flatten_cons, ih]

theorem Cut.ne_nil {text : List Char} {pieces : List (List Char)} (cuts : Cut text pieces) :
    ∀ piece ∈ pieces, piece ≠ [] := by
  induction cuts with
  | nil => exact nofun
  | cons cut _ ih => exact List.forall_mem_cons.mpr ⟨cut.ne_nil, ih⟩

/-! ## Strings -/

/-- A text is outside of strings at its end: every quote in it that opens one has another that closes it. -/
def Outside (text : List Char) : Prop :=
  text.count '\'' % 2 = 0

instance (text : List Char) : Decidable (Outside text) :=
  inferInstanceAs (Decidable (_ = _))

theorem outside_append {before : List Char} (unquoted : '\'' ∉ before) (behind : List Char) :
    Outside (before ++ behind) ↔ Outside behind := by
  unfold Outside
  rw [List.count_append, List.count_eq_zero.mpr unquoted, Nat.zero_add]

section

variable {p : Char → Bool} (other : p '\'' = false)
include other

theorem quote_notMem_span {first : Char} {more : List Char} (quote : first ≠ '\'') (parts : ∀ c ∈ more, p c = true) :
    '\'' ∉ first :: more := by
  intro member
  rcases List.mem_cons.mp member with rfl | member
  · exact quote rfl
  · exact Bool.false_ne_true (other.symm.trans (parts _ member))

/-- What ends with the text ends before a quote. -/
theorem ends_append_quote {behind : List Char} (ends : ∀ c ∈ behind.head?, p c = false) (rest : List Char) :
    ∀ c ∈ (behind ++ '\'' :: rest).head?, p c = false := by
  cases behind with
  | nil =>
    rintro c ⟨⟩
    exact other
  | cons d behind => exact ends

end

/-- If no string is open at the end of a text, another one behind it changes none of its pieces. -/
theorem Piece.before_quote {piece behind : List Char} (cut : Piece piece behind) (outside : Outside (piece ++ behind))
    (rest : List Char) : Piece piece (behind ++ '\'' :: rest) ∧ Outside behind := by
  cases cut with
  | @closed inside unquoted behind =>
    refine ⟨.closed unquoted _, ?_⟩
    unfold Outside at outside ⊢
    rw [List.count_append, List.count_append, List.count_cons_self, List.count_eq_zero.mpr unquoted,
      List.count_singleton_self] at outside
    omega
  | @unclosed inside unquoted =>
    unfold Outside at outside
    rw [List.append_nil, List.count_cons_self, List.count_eq_zero.mpr unquoted] at outside
    cases outside
  | @number first more behind digit parts ends =>
    have other : isNumberPart '\'' = false := rfl
    have unquoted := quote_notMem_span other (isDigit_ne_quote digit) parts
    exact ⟨.number digit parts (ends_append_quote other ends rest), (outside_append unquoted behind).mp outside⟩
  | @word first more behind digit start parts ends =>
    have other : isNamePart '\'' = false := by decide +kernel
    have unquoted := quote_notMem_span other (isNameStart_ne_quote start) parts
    exact ⟨.word digit start parts (ends_append_quote other ends rest), (outside_append unquoted behind).mp outside⟩
  | @single first quote digit start behind =>
    have unquoted : '\'' ∉ [first] := fun member => quote (List.mem_singleton.mp member).symm
    exact ⟨.single quote digit start _, (outside_append unquoted behind).mp outside⟩

theorem Cut.before_quote {text rest : List Char} {earlier later : List (List Char)} (cuts : Cut text earlier)
    (outside : Outside text) (cuts' : Cut ('\'' :: rest) later) :
    Cut (text ++ '\'' :: rest) (earlier ++ later) := by
  induction cuts with
  | nil => exact cuts'
  | @cons piece behind earlier cut _ ih =>
    obtain ⟨cut, outside⟩ := cut.before_quote outside rest
    rw [List.append_assoc]
    exact .cons cut (ih outside)

/-- A string up to the next quote and with it, or up to the end. -/
theorem piece_string {inside behind : List Char} (unquoted : '\'' ∉ inside) (ends : ∀ c ∈ behind.head?, c = '\'') :
    Piece ('\'' :: inside ++ behind.take 1) (behind.drop 1) := by
  cases behind with
  | nil =>
    rw [List.take_nil, List.append_nil]
    exact .unclosed unquoted
  | cons c behind =>
    obtain rfl := ends c rfl
    exact .closed unquoted behind

end VideoPlan.Console
