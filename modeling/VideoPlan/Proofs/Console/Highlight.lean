import VideoPlan.Console.Highlight

/-!
# Colours change no text

A line that is coloured piece by piece is written with all its characters, since its pieces put together are the line
(`cut_pieces`). What is added stands before and behind whole pieces, so nothing inside a string has a colour of its own.

Main statement: `highlight_whole_pieces`.
-/

namespace VideoPlan.Console

open Text

/-- Blanks at the end are none of the first characters of a text that is not blank. -/
theorem head?_trim {cs : List Char} (filled : trim cs ≠ []) : (trim cs).head? = (trimStart cs).head? := by
  obtain ⟨blanks, split⟩ := List.dropWhile_suffix (l := (trimStart cs).reverse) isBlank
  have whole : trimStart cs = trim cs ++ blanks.reverse := by
    rw [trim, trimEnd, ← List.reverse_append, split, List.reverse_reverse]
  obtain ⟨first, rest, same⟩ := List.exists_cons_of_ne_nil filled
  rw [whole, same]
  rfl

theorem highlight_of_statement (tables : Tables) {line : String} (filled : trim line.toList ≠ [])
    (statement : (trim line.toList).head? ≠ some '\\') :
    highlight tables line = String.join ((pieces line.toList).map (paintPiece tables)) := by
  rw [head?_trim filled] at statement
  unfold highlight isCommand
  rw [if_neg (by simpa using filled), if_neg (by simpa using statement)]

theorem piecesFrom?_eq_some (line : List Char) : piecesFrom? line 0 = some (pieces line) :=
  (Option.some_get _).symm

/-- A line has one cut. -/
theorem cut_iff {line : List Char} {cut : List (List Char)} : Cut line cut ↔ pieces line = cut := by
  have only {cut : List (List Char)} (cuts : Cut line cut) : pieces line = cut :=
    Option.some.inj ((piecesFrom?_eq_some line).symm.trans (cuts.piecesFrom?_eq []))
  refine ⟨only, ?_⟩
  rintro rfl
  obtain ⟨cut, cuts⟩ := exists_cut line
  exact only cuts ▸ cuts

theorem cut_pieces (line : List Char) : Cut line (pieces line) :=
  cut_iff.mpr rfl

/-- A piece is written as it is, or as a whole in a colour. -/
theorem paintPiece_cases (tables : Tables) (piece : List Char) :
    paintPiece tables piece = String.ofList piece ∨
      ∃ colour : Colour, paintPiece tables piece = colour.code ++ String.ofList piece ++ resetCode := by
  unfold paintPiece
  split
  · exact .inr ⟨_, rfl⟩
  · exact .inl rfl

/-- Strings are green, whatever is in them. -/
theorem paintPiece_string (tables : Tables) (more : List Char) :
    paintPiece tables ('\'' :: more) = Colour.green.code ++ String.ofList ('\'' :: more) ++ resetCode := rfl

/-- Behind a text outside of strings a string is one piece. -/
theorem exists_string {before inside behind : List Char} (outside : Outside before) (unquoted : '\'' ∉ inside)
    (ends : ∀ c ∈ behind.head?, c = '\'') :
    ∃ earlier later, pieces (before ++ '\'' :: inside ++ behind) =
        earlier ++ ('\'' :: inside ++ behind.take 1) :: later ∧ earlier.flatten = before := by
  obtain ⟨earlier, cuts⟩ := exists_cut before
  obtain ⟨later, cuts'⟩ := exists_cut (behind.drop 1)
  have string : Cut ('\'' :: (inside ++ behind)) (('\'' :: inside ++ behind.take 1) :: later) := by
    have cut := Cut.cons (piece_string unquoted ends) cuts'
    rw [List.append_assoc, List.take_append_drop] at cut
    exact cut
  have whole := cut_iff.mp (cuts.before_quote outside string)
  rw [List.append_assoc]
  exact ⟨earlier, later, whole, cuts.flatten_eq⟩

/-- Highlighting adds codes of colours between the pieces of a line and nothing else. Every line is cut, between
characters, into pieces that are not empty and that put together are the line. What is written is one piece behind the
other, each as it is or as a whole in one colour. A string, from a quote outside of strings up to the next quote or to
the end, is one piece and green. -/
theorem highlight_whole_pieces (tables : Tables) {line : String} (filled : trim line.toList ≠ [])
    (statement : (trim line.toList).head? ≠ some '\\') :
    ∃ pieces, piecesFrom? line.toList 0 = some pieces ∧
      (∀ piece ∈ pieces, piece ≠ []) ∧ pieces.flatten = line.toList ∧
      (∀ earlier piece later, pieces = earlier ++ piece :: later →
        sliceBytes? (byteLength earlier.flatten) (byteLength earlier.flatten + byteLength piece) line.toList =
          some piece) ∧
      highlight tables line = String.join (pieces.map (paintPiece tables)) ∧
      (∀ piece ∈ pieces, paintPiece tables piece = String.ofList piece ∨
        ∃ colour : Colour, paintPiece tables piece = colour.code ++ String.ofList piece ++ resetCode) ∧
      ∀ before inside behind, line.toList = before ++ '\'' :: inside ++ behind → Outside before → '\'' ∉ inside →
        (∀ c ∈ behind.head?, c = '\'') →
          let string := '\'' :: inside ++ behind.take 1
          ∃ earlier later, pieces = earlier ++ string :: later ∧ earlier.flatten = before ∧
            paintPiece tables string = Colour.green.code ++ String.ofList string ++ resetCode := by
  have cuts := cut_pieces line.toList
  refine ⟨pieces line.toList, piecesFrom?_eq_some _, cuts.ne_nil, cuts.flatten_eq, ?_,
    highlight_of_statement tables filled statement, fun piece _ => paintPiece_cases tables piece, ?_⟩
  · intro earlier piece later split
    have whole := cuts.flatten_eq
    rw [split, List.flatten_append, List.flatten_cons, ← List.append_assoc] at whole
    rw [← whole]
    exact sliceBytes?_append earlier.flatten piece later.flatten
  · intro before inside behind split outside unquoted ends
    rw [split]
    obtain ⟨earlier, later, cut, same⟩ := exists_string outside unquoted ends
    exact ⟨earlier, later, cut, same, paintPiece_string tables _⟩

/-- Letters of two bytes, and a word of statements in a string that nothing closes. -/
theorem highlight_whole_pieces_unclosed :
    let line := "SELECT größe FROM t WHERE c = 'FROM é"
    trim line.toList ≠ [] ∧ (trim line.toList).head? ≠ some '\\' ∧
      ∃ pieces, piecesFrom? line.toList 0 = some pieces ∧ pieces.flatten = line.toList ∧
        highlight [("t", ["c"])] line = String.join (pieces.map (paintPiece [("t", ["c"])])) ∧
        ∃ earlier later, pieces = earlier ++ "'FROM é".toList :: later ∧
          paintPiece [("t", ["c"])] "'FROM é".toList = "\x1b[32m'FROM é\x1b[0m" := by
  intro line
  have filled : trim line.toList ≠ [] := by decide +kernel
  have statement : (trim line.toList).head? ≠ some '\\' := by decide +kernel
  obtain ⟨pieces, cut, -, whole, -, painted, -, strings⟩ := highlight_whole_pieces [("t", ["c"])] filled statement
  refine ⟨filled, statement, pieces, cut, whole, painted, ?_⟩
  obtain ⟨earlier, later, split, -, -⟩ := strings "SELECT größe FROM t WHERE c = ".toList "FROM é".toList []
    (by decide +kernel) (by decide +kernel) (by decide +kernel) (by simp)
  exact ⟨earlier, later, split, by decide +kernel⟩

end VideoPlan.Console
