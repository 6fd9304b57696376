import Mathlib.Data.List.TakeWhile
import VideoPlan.Proofs.Console.Completion
import VideoPlan.Proofs.Text.Words

/-!
# What completion offers

Whatever is offered for a word starts with it in lower case, wherever it comes from (`startsWith_of_mem_candidates`).
Nothing that fits is missing: words of statements and element types are all offered, and a column of a table that the
line names is offered unless something that equals it but for case is offered already (`exists_mem_addColumns`).

A line is lower-cased as a whole before its tables are sought, while a table is known under its own name in lower
case. Both come to the same, since a name in a line stands between characters that part texts
(`lowercase_mem_namedTables`).

Main statement: `candidates_fit_typed`.
-/

namespace VideoPlan.Console

open Text

/-! ## Tables that a text names -/

/-- A word spells a name: commas and semicolons at its end do not belong to the name, nor does an opening parenthesis
with what follows it. -/
structure Spells (word name tail : List Char) : Prop where
  split : word = name ++ tail
  noParenthesis : '(' ∉ name
  ends : tail.head? = some '(' ∨
    (∀ c ∈ tail, c = ',' ∨ c = ';') ∧ ∀ c ∈ name.getLast?, ¬ (c = ',' ∨ c = ';')

/-- The name stands in the text right behind `from` or `into`, in any case. -/
def Names (text name : List Char) : Prop :=
  ∃ earlier marker word later tail, words text = earlier ++ marker :: word :: later ∧
    lowerAfter [] marker ∈ ["from".toList, "into".toList] ∧ Spells word name tail

/-- What is dropped at the end of a text does not reach over a character that stays. -/
theorem dropEnd_append_cons {p : Char → Bool} {c : Char} (stays : p c = false) (before behind : List Char) :
    ∃ behind', ((before ++ c :: behind).reverse.dropWhile p).reverse = before ++ c :: behind' := by
  have reversed : (before ++ c :: behind).reverse = behind.reverse ++ c :: before.reverse := by simp
  rw [reversed, List.dropWhile_append]
  split
  · refine ⟨[], ?_⟩
    rw [List.dropWhile_cons, stays]
    simp
  · refine ⟨(behind.reverse.dropWhile p).reverse, ?_⟩
    simp

theorem dropEnd_append {p : Char → Bool} {name tail : List Char} (drops : ∀ c ∈ tail, p c = true)
    (stays : ∀ c ∈ name.getLast?, p c = false) : ((name ++ tail).reverse.dropWhile p).reverse = name := by
  rw [List.reverse_append, List.dropWhile_append_of_pos fun c member => drops c (List.mem_reverse.mp member)]
  cases final : name.getLast? with
  | none =>
    obtain rfl := List.getLast?_eq_none_iff.mp final
    rfl
  | some last =>
    obtain ⟨before, rfl⟩ := List.getLast?_eq_some_iff.mp final
    rw [List.reverse_append, List.reverse_singleton, List.singleton_append, List.dropWhile_cons, stays last final]
    simp

theorem bareName_of_spells {word name tail : List Char} (spells : Spells word name tail) : bareName word = name := by
  obtain ⟨rfl, noParenthesis, ends⟩ := spells
  have inside : ∀ c ∈ name, (c != '(') = true := by
    rintro c member
    exact bne_iff_ne.mpr fun same => noParenthesis (same ▸ member)
  unfold bareName
  rcases ends with opens | ⟨punctuation, last⟩
  · obtain ⟨behind, rfl⟩ := List.head?_eq_some_iff.mp opens
    obtain ⟨behind', dropped⟩ := dropEnd_append_cons (p := fun c => c = ',' || c = ';') (c := '(') rfl name behind
    rw [dropped, List.takeWhile_append_of_pos inside]
    simp
  · rw [dropEnd_append (by simpa using punctuation) (by simpa using last), List.takeWhile_eq_self_iff]
    exact inside

/-- No lower-case letter is a parenthesis or a mark. -/
theorem not_mark_of_isLowered {c : Char} (lowered : IsLowered c) : c ≠ '(' ∧ ¬ (c = ',' ∨ c = ';') := by
  have letter := lowered.letter
  refine ⟨?_, ?_⟩
  · rintro rfl
    exact absurd letter (by decide)
  · rintro (rfl | rfl) <;> exact absurd letter (by decide)

theorem Spells.lowerAfter {word name tail : List Char} (spells : Spells word name tail) :
    ∃ tail', Spells (lowerAfter [] word) (lowerAfter [] name) tail' := by
  obtain ⟨rfl, noParenthesis, ends⟩ := spells
  have inside : '(' ∉ Text.lowerAfter [] name := by
    intro member
    rcases isLowered_or_of_mem_lowerAfter member with lowered | ⟨member, -⟩
    · exact (not_mark_of_isLowered lowered).1 rfl
    · exact noParenthesis member
  have last (unmarked : ∀ c ∈ name.getLast?, ¬ (c = ',' ∨ c = ';')) :
      ∀ c ∈ (Text.lowerAfter [] name).getLast?, ¬ (c = ',' ∨ c = ';') := by
    intro c final
    exact (getLast?_lowerAfter c final).elim (fun lowered => (not_mark_of_isLowered lowered).2) (unmarked c)
  cases tail with
  | nil =>
    rw [List.append_nil]
    exact ⟨[], (List.append_nil _).symm, inside, ends.imp nofun fun ⟨_, unmarked⟩ => ⟨nofun, last unmarked⟩⟩
  | cons mark behind =>
    -- the mark behind the name parts it from what follows
    have parting : Parting mark := by
      have marks : mark = '(' ∨ mark = ',' ∨ mark = ';' :=
        ends.imp (fun opens => Option.some.inj opens) fun ⟨punctuation, _⟩ => punctuation mark List.mem_cons_self
      rcases marks with rfl | rfl | rfl <;> decide +kernel
    refine ⟨_, lowerAfter_append_cons parting [] name behind, inside, ends.imp id fun ⟨punctuation, unmarked⟩ => ?_⟩
    have settled : ∀ c ∈ behind, Settled c := by
      intro c member
      rcases punctuation c (List.mem_cons_of_mem mark member) with rfl | rfl <;> decide +kernel
    rw [lowerAfter_of_settled settled]
    exact ⟨punctuation, last unmarked⟩

theorem namesAfter_subset_cons (word : List Char) (words : List (List Char)) :
    namesAfter words ⊆ namesAfter (word :: words) := by
  cases words with
  | nil => exact List.nil_subset _
  | cons next words =>
    rw [namesAfter.eq_1]
    split
    · exact List.subset_cons_self _ _
    · exact List.Subset.refl _

theorem mem_namesAfter {word name tail : List Char} (spells : Spells word name tail) {marker : List Char}
    (marks : marker ∈ ["from".toList, "into".toList]) (earlier later : List (List Char)) :
    String.ofList name ∈ namesAfter (earlier ++ marker :: word :: later) := by
  induction earlier with
  | nil =>
    have named : (decide (marker = "from".toList) || decide (marker = "into".toList)) = true := by
      simpa only [Bool.or_eq_true, decide_eq_true_eq, List.mem_cons, List.not_mem_nil, or_false] using marks
    rw [List.nil_append, namesAfter, if_pos named, bareName_of_spells spells]
    exact List.mem_cons_self
  | cons first earlier ih => exact namesAfter_subset_cons first _ ih

/-- A table that the text names is found in the text in lower case. -/
theorem lowercase_mem_namedTables {text : List Char} {name : String} (named : Names text name.toList) :
    lowercase name ∈ namedTables (lowerAfter [] text) := by
  obtain ⟨earlier, marker, word, later, tail, split, marks, spells⟩ := named
  obtain ⟨tail', spells⟩ := spells.lowerAfter
  rw [namedTables, words_lowerAfter, split, List.map_append, List.map_cons, List.map_cons]
  exact mem_namesAfter spells marks _ _

/-! ## Tables that are registered -/

/-- Tables that were registered one after the other. -/
inductive Registered : Tables → Prop
  | none : Registered []
  | register {tables : Tables} (name : String) (columns : List String) :
      Registered tables → Registered (tables.register name columns)

/-- Tables are registered in lower case. -/
theorem Registered.lowercase_eq {tables : Tables} (registered : Registered tables) :
    ∀ entry ∈ tables, lowercase entry.1 = entry.1 := by
  induction registered with
  | none => exact nofun
  | register name columns _ ih =>
    intro entry member
    rcases List.mem_cons.mp member with rfl | member
    · exact lowercase_lowercase name
    · exact ih entry (List.mem_filter.mp member).1

/-! ## Candidates -/

/-- In lower case the text starts with what was typed. -/
def Fits (typed text : String) : Prop :=
  typed.toList <+: (lowercase text).toList

theorem startsWith_iff {text start : String} : startsWith text start = true ↔ start.toList <+: text.toList :=
  List.isPrefixOf_iff_prefix

variable {typed : String}

theorem mem_keywordCandidates {capital : Bool} {candidate : Candidate} :
    candidate ∈ keywordCandidates capital typed ↔ ∃ keyword ∈ keywords ++ elementTypes, Fits typed keyword ∧
      ⟨keyword, if capital then keyword else lowercase keyword⟩ = candidate := by
  unfold keywordCandidates Fits
  simp only [List.mem_map, List.mem_filter, startsWith_iff, and_assoc]

/-- In either case a word is the same in lower case. -/
theorem lowercase_cased (capital : Bool) (keyword : String) :
    lowercase (if capital then keyword else lowercase keyword) = lowercase keyword := by
  split
  · rfl
  · exact lowercase_lowercase keyword

theorem fits_of_mem_keywordCandidates {capital : Bool} {candidate : Candidate}
    (member : candidate ∈ keywordCandidates capital typed) : Fits typed candidate.replacement := by
  obtain ⟨keyword, -, fits, rfl⟩ := mem_keywordCandidates.mp member
  unfold Fits
  rw [lowercase_cased]
  exact fits

theorem fits_of_mem_tableCandidates {tables : Tables} (registered : Registered tables) {candidate : Candidate}
    (member : candidate ∈ tableCandidates tables typed) : Fits typed candidate.replacement := by
  obtain ⟨name, kept, rfl⟩ := List.mem_map.mp member
  obtain ⟨known, starts⟩ := List.mem_filter.mp kept
  rw [Tables.names, List.mem_mergeSort] at known
  obtain ⟨entry, registeredEntry, rfl⟩ := List.mem_map.mp known
  show typed.toList <+: (lowercase entry.1).toList
  rw [registered.lowercase_eq entry registeredEntry]
  exact startsWith_iff.mp starts

/-! ## Columns, one after the other -/

/-- The candidates with one more column, if it fits and equals none of them but for case. -/
def addColumn (typed : String) (candidates : List Candidate) (column : String) : List Candidate :=
  if startsWith (lowercase column) typed &&
      !candidates.any fun candidate => lowercase candidate.replacement == lowercase column then
    candidates ++ [.plain column]
  else candidates

theorem addColumns_cons (candidates : List Candidate) (column : String) (columns : List String) :
    addColumns typed candidates (column :: columns) =
      addColumns typed (addColumn typed candidates column) columns := by
  unfold addColumn
  rw [addColumns, apply_ite (addColumns typed · columns)]

theorem subset_addColumn (candidates : List Candidate) (column : String) :
    candidates ⊆ addColumn typed candidates column := by
  unfold addColumn
  split
  · exact List.subset_append_left candidates _
  · exact List.Subset.refl candidates

theorem fits_of_mem_addColumn {candidates : List Candidate}
    (fit : ∀ candidate ∈ candidates, Fits typed candidate.replacement) (column : String) :
    ∀ candidate ∈ addColumn typed candidates column, Fits typed candidate.replacement := by
  unfold addColumn
  split
  · rename_i added
    rw [Bool.and_eq_true] at added
    exact List.forall_mem_append.mpr ⟨fit, List.forall_mem_singleton.mpr (startsWith_iff.mp added.1)⟩
  · exact fit

/-- A column that fits is offered then, if it was not before. -/
theorem exists_mem_addColumn (candidates : List Candidate) {column : String} (fits : Fits typed column) :
    ∃ candidate ∈ addColumn typed candidates column, lowercase candidate.replacement = lowercase column := by
  unfold addColumn
  rw [startsWith_iff.mpr fits, Bool.true_and]
  cases known : candidates.any fun candidate => lowercase candidate.replacement == lowercase column with
  | true =>
    obtain ⟨candidate, offered, same⟩ := List.any_eq_true.mp known
    exact ⟨candidate, offered, beq_iff_eq.mp same⟩
  | false => exact ⟨.plain column, List.mem_append_right _ (List.mem_singleton_self _), rfl⟩

theorem subset_addColumns (candidates : List Candidate) (columns : List String) :
    candidates ⊆ addColumns typed candidates columns := by
  induction columns generalizing candidates with
  | nil => exact List.Subset.refl candidates
  | cons column columns ih =>
    rw [addColumns_cons]
    exact List.Subset.trans (subset_addColumn candidates column) (ih _)

theorem fits_of_mem_addColumns {candidates : List Candidate}
    (fit : ∀ candidate ∈ candidates, Fits typed candidate.replacement) (columns : List String) :
    ∀ candidate ∈ addColumns typed candidates columns, Fits typed candidate.replacement := by
  induction columns generalizing candidates with
  | nil => exact fit
  | cons column columns ih =>
    rw [addColumns_cons]
    exact ih (fits_of_mem_addColumn fit column)

/-- A column that fits is offered, or something that equals it but for case. -/
theorem exists_mem_addColumns (candidates : List Candidate) {columns : List String} {column : String}
    (member : column ∈ columns) (fits : Fits typed column) :
    ∃ candidate ∈ addColumns typed candidates columns, lowercase candidate.replacement = lowercase column := by
  induction columns generalizing candidates with
  | nil => cases member
  | cons first columns ih =>
    rw [addColumns_cons]
    rcases List.mem_cons.mp member with rfl | member
    · obtain ⟨candidate, offered, same⟩ := exists_mem_addColumn candidates fits
      exact ⟨candidate, subset_addColumns _ columns offered, same⟩
    · exact ih _ member

/-! ## Lines -/

/-- Up to a cursor behind its first character that is not blank, a line is a command exactly if it is one as a whole. -/
theorem isCommand_append (before behind : List Char) :
    isCommand before = true ↔ isCommand (before ++ behind) = true ∧ trimStart before ≠ [] := by
  unfold isCommand trimStart
  rw [List.dropWhile_append, decide_eq_true_eq, decide_eq_true_eq]
  cases before.dropWhile isBlank with
  | nil => simp
  | cons c rest => simp

section

variable (tables : Tables) (text word : List Char)

theorem candidates_of_command (command : isCommand text = true) :
    candidates tables text word =
      (commands.filter (startsWith · (lowercase (String.ofList word)))).map .plain := by
  unfold candidates
  exact if_pos command

/-- In a statement, columns come behind words and tables. -/
theorem candidates_of_statement (statement : isCommand text = false) :
    ∃ capital, ∃ ofTables ⊆ tableCandidates tables (lowercase (String.ofList word)),
      candidates tables text word =
        addColumns (lowercase (String.ofList word))
          (keywordCandidates capital (lowercase (String.ofList word)) ++ ofTables)
          ((namedTables (lowerAfter [] text)).flatMap fun name => (tables.lookup name).getD []) := by
  have lowered : (lowercase (String.ofList text)).toList = lowerAfter [] text := by
    rw [lowercase, String.toList_ofList, String.toList_ofList]
  unfold candidates
  rw [lowered, if_neg (Bool.eq_false_iff.mp statement)]
  refine ⟨_, _, ?_, rfl⟩
  split
  · exact List.Subset.refl _
  · exact List.nil_subset _

theorem fits_of_mem_candidates (registered : Registered tables) :
    ∀ candidate ∈ candidates tables text word, Fits (lowercase (String.ofList word)) candidate.replacement := by
  cases command : isCommand text with
  | true =>
    intro candidate member
    rw [candidates_of_command tables text word command] at member
    obtain ⟨name, matching, rfl⟩ := List.mem_map.mp member
    obtain ⟨known, starts⟩ := List.mem_filter.mp matching
    have kept : ∀ name ∈ commands, lowercase name = name := by decide +kernel
    show _ <+: (lowercase name).toList
    rw [kept name known]
    exact startsWith_iff.mp starts
  | false =>
    obtain ⟨capital, ofTables, fromTables, offered⟩ := candidates_of_statement tables text word command
    rw [offered]
    apply fits_of_mem_addColumns
    intro candidate member
    rcases List.mem_append.mp member with member | member
    · exact fits_of_mem_keywordCandidates member
    · exact fits_of_mem_tableCandidates registered (fromTables member)

end

/-- A completion fits what was typed. The word begins behind a character that ends words, or with the line, and no
such character is in it; every candidate starts with it in lower case. If the line up to the cursor is a command, the
commands that fit are offered and nothing else. Else every word of statements and every element type that fits is
offered, and for every table that the line names up to the cursor every column that fits, or something that equals it
but for case. -/
theorem candidates_fit_typed {tables : Tables} (registered : Registered tables) {line : String} {cursor start : Nat}
    {found : List Candidate} (completed : complete? tables line cursor = some (start, found)) :
    ∃ lead word behind, line.toList = lead ++ word ++ behind ∧ byteLength lead = start ∧
      byteLength (lead ++ word) = cursor ∧ start ≤ cursor ∧
      (∀ c ∈ word, endsWord c = false) ∧ (∀ last ∈ lead.getLast?, endsWord last = true) ∧
      let before := lead ++ word
      let typed := lowercase (String.ofList word)
      (∀ candidate ∈ found, Fits typed candidate.replacement) ∧
      (isCommand before = true ↔ isCommand line.toList = true ∧ trimStart before ≠ []) ∧
      (isCommand before = true → found = (commands.filter (startsWith · typed)).map .plain) ∧
      (isCommand before = false →
        (∀ keyword ∈ keywords ++ elementTypes, Fits typed keyword →
          ∃ candidate ∈ found, candidate.shown = keyword ∧ lowercase candidate.replacement = lowercase keyword) ∧
        ∀ name columns, tables.lookup (lowercase name) = some columns → Names before name.toList →
          ∀ column ∈ columns, Fits typed column →
            ∃ candidate ∈ found, lowercase candidate.replacement = lowercase column) := by
  obtain ⟨before, behind, split, boundary⟩ : ∃ before behind, line.toList = before ++ behind ∧
      byteLength before = cursor := by
    unfold complete? at completed
    cases cut : splitAtByte? cursor line.toList with
    | none =>
      rw [cut] at completed
      cases completed
    | some parts => exact ⟨parts.1, parts.2, splitAtByte?_eq_some_iff.mp cut⟩
  obtain ⟨lead, word, last⟩ := exists_lastWord before
  rw [complete?_eq tables line split boundary last] at completed
  obtain ⟨rfl, inside, ends⟩ := last
  split at completed
  · cases completed
    refine ⟨lead, word, behind, split, rfl, boundary, ?_, inside, ends, ?_, ?_, ?_, ?_⟩
    · rw [← boundary, byteLength_append]
      exact Nat.le_add_right _ _
    · exact fits_of_mem_candidates tables _ word registered
    · rw [split]
      exact isCommand_append (lead ++ word) behind
    · exact candidates_of_command tables (lead ++ word) word
    · intro statement
      obtain ⟨capital, ofTables, -, offered⟩ := candidates_of_statement tables (lead ++ word) word statement
      rw [offered]
      refine ⟨fun keyword known fits => ?_, fun name columns known named column member fits => ?_⟩
      · have cased : ⟨keyword, if capital then keyword else lowercase keyword⟩ ∈
            keywordCandidates capital (lowercase (String.ofList word)) :=
          mem_keywordCandidates.mpr ⟨keyword, known, fits, rfl⟩
        refine ⟨_, subset_addColumns _ _ (List.mem_append_left _ cased), rfl, ?_⟩
        exact lowercase_cased capital keyword
      · refine exists_mem_addColumns _ (List.mem_flatMap.mpr ⟨_, lowercase_mem_namedTables named, ?_⟩) fits
        rw [known]
        exact member
  · cases completed

/-- The line names a table with a column that fits, which is in another case. -/
theorem candidates_fit_typed_column :
    let tables := Tables.register [] "T1" ["Dog"]
    let found : List Candidate := [⟨"DATA", "data"⟩, ⟨"DECIMAL", "decimal"⟩, ⟨"Dog", "Dog"⟩]
    Registered tables ∧ complete? tables "SELECT id FROM t1 WHERE d" 25 = some (24, found) ∧
      ∃ candidate ∈ found, lowercase candidate.replacement = lowercase "Dog" := by
  intro tables found
  have registered : Registered tables := .register "T1" ["Dog"] .none
  have completed : complete? tables "SELECT id FROM t1 WHERE d" 25 = some (24, found) := by decide +kernel
  refine ⟨registered, completed, ?_⟩
  obtain ⟨lead, word, behind, split, start, stop, -, -, -, -, -, -, offers⟩ := candidates_fit_typed registered completed
  have whole : lead ++ word = "SELECT id FROM t1 WHERE d".toList := by
    have cut := splitAtByte?_eq_some_iff.mpr ⟨split, stop⟩
    have all : splitAtByte? 25 "SELECT id FROM t1 WHERE d".toList = some ("SELECT id FROM t1 WHERE d".toList, []) := by
      decide +kernel
    exact congrArg Prod.fst (Option.some.inj (cut.symm.trans all))
  have unmarked : ∀ c ∈ "t1".toList.getLast?, ¬ (c = ',' ∨ c = ';') := by
    rintro c ⟨⟩
    decide +kernel
  have named : Names (lead ++ word) "t1".toList := by
    rw [whole]
    exact ⟨["SELECT".toList, "id".toList], "FROM".toList, "t1".toList, ["WHERE".toList, "d".toList], [],
      by decide +kernel, by decide +kernel, rfl, by decide +kernel, .inr ⟨nofun, unmarked⟩⟩
  have last : word = "d".toList := by
    have cut : splitAtByte? 24 (lead ++ word) = some (lead, word) := splitAtByte?_eq_some_iff.mpr ⟨rfl, start⟩
    have all : splitAtByte? 24 "SELECT id FROM t1 WHERE d".toList =
        some ("SELECT id FROM t1 WHERE ".toList, "d".toList) := by
      decide +kernel
    rw [whole] at cut
    exact congrArg Prod.snd (Option.some.inj (cut.symm.trans all))
  have typed : Fits (lowercase (String.ofList word)) "Dog" := by
    rw [last]
    exact startsWith_iff.mp (by decide +kernel)
  have statement : isCommand (lead ++ word) = false := by
    rw [whole]
    decide +kernel
  have known : tables.lookup (lowercase "t1") = some ["Dog"] := by decide +kernel
  exact (offers statement).2 "t1" ["Dog"] known named "Dog" List.mem_cons_self typed

/-- With the cursor before its backslash, a command is completed as a statement is. A name that only a comma parts from
another one is not taken for a table. -/
theorem candidates_of_line_before_cursor :
    (isCommand "\\q".toList = true ∧
      ∃ found, complete? [] "\\q" 0 = some (0, found) ∧ ∃ candidate ∈ found, candidate.replacement ∉ commands) ∧
    ∃ found, complete? (Tables.register [] "t1" ["dog"]) "SELECT id FROM t1,t2 WHERE d" 28 = some (27, found) ∧
      ∀ candidate ∈ found, lowercase candidate.replacement ≠ lowercase "dog" := by
  refine ⟨⟨by decide +kernel, candidates [] [] [], by decide +kernel, ⟨"SELECT", "SELECT"⟩, ?_, by decide +kernel⟩,
    [⟨"DATA", "data"⟩, ⟨"DECIMAL", "decimal"⟩], by decide +kernel, by decide +kernel⟩
  decide +kernel

end VideoPlan.Console
