import VideoPlan.Proofs.Action
import VideoPlan.Proofs.Statement.Reading
import VideoPlan.Statement.Script

/-!
# Statements between semicolons

A declaration is read without a look behind it, but for a name that goes on with a point
(`readAs_append`). If the other statements of SQL are read so too (`Separable`), a statement that was read up
to the end or up to a semicolon is read alike before more semicolons (`ofTokens?_append`). So a script is read
piece by piece, by induction along its statements.

Main statement: `Script.ofTokens?_separated`.
-/

namespace VideoPlan

open Sql (Token)

/-! ## Declarations -/

namespace Declaration

/-- What is read stays the same if more comes behind what is left, but no point comes at once. -/
theorem readAs_append {tokens rest : List Token} {statement : Statement} (read : ReadAs tokens statement rest)
    {more : List Token} (noPoint : more.head? ≠ some .period) :
    ReadAs (tokens ++ more) statement (rest ++ more) := by
  obtain ⟨taken, rfl, derived, ends⟩ := readAs_iff_derives.mp read
  refine readAs_iff_derives.mpr ⟨taken, List.append_assoc taken rest more, derived, fun load isLoad => ?_⟩
  cases rest with
  | nil => exact noPoint
  | cons token rest => exact ends load isLoad

/-- A declaration takes its first two words. -/
theorem length_lt_of_readAs {tokens rest : List Token} {statement : Statement}
    (read : ReadAs tokens statement rest) : rest.length < tokens.length := by
  obtain ⟨taken, rfl, derived, -⟩ := readAs_iff_derives.mp read
  have nonempty : 0 < taken.length := by cases derived <;> exact Nat.succ_pos _
  rw [List.length_append]
  omega

/-- A semicolon is no word, so it opens no declaration. -/
theorem opening?_append_eq_none {tokens : List Token} (none : opening? tokens = none) (more : List Token) :
    opening? (tokens ++ .semicolon :: more) = .none := by
  match tokens with
  | [] => cases more <;> rfl
  | [token] =>
    have unknown : behind? (word? token) .none = .none := by
      cases known : behind? (word? token) .none with
      | none => rfl
      | some reader => rcases behind?_eq_some_iff.mp known with ⟨-, same, -⟩ | ⟨-, same, -⟩ | ⟨-, same, -⟩ <;> cases same
    exact Option.map_eq_none_iff.mpr unknown
  | first :: second :: rest =>
    have unknown := Option.map_eq_none_iff.mp none
    exact Option.map_eq_none_iff.mpr unknown

end Declaration

/-! ## Statements -/

/-- The statements of SQL that are no declarations take tokens from the front, at least one, and end before a
semicolon as they end at the end of a text. -/
structure Separable (plain : Sql.Reader Sql.Statement) : Prop where
  takes : ∀ {tokens statement rest}, plain tokens = .ok (statement, rest) →
    ∃ taken, taken ≠ [] ∧ tokens = taken ++ rest
  ends : ∀ {taken statement rest},
    plain (taken ++ .semicolon :: rest) = .ok (statement, .semicolon :: rest) ↔ plain taken = .ok (statement, [])

namespace Statement

variable {plain : Sql.Reader Sql.Statement}

theorem ofTokens?_eq_ok {tokens rest : List Token} {statement : Statement} :
    ofTokens? plain tokens = .ok (statement, rest) ↔
      Declaration.ReadAs tokens statement rest ∨
        Declaration.opening? tokens = none ∧
          ∃ sql, plain tokens = .ok (sql, rest) ∧ ofSql? sql = .ok statement := by
  unfold ofTokens? Declaration.ReadAs
  cases opens : Declaration.opening? tokens with
  | some opening =>
    obtain ⟨reader, behind⟩ := opening
    dsimp only
    cases read : reader behind with
    | error fault => simp [Except.mapError, read]
    | ok answer => simp [Except.mapError, read]
  | none =>
    dsimp only
    cases read : plain tokens with
    | error fault => simp
    | ok answer =>
      obtain ⟨sql, behind⟩ := answer
      cases lowered : ofSql? sql <;> simp [lowered, and_comm]

theorem ofTokens?_append (separable : Separable plain) {tokens rest : List Token} {statement : Statement}
    (read : ofTokens? plain tokens = .ok (statement, rest)) (stops : ∀ token ∈ rest.head?, token = .semicolon)
    (more : List Token) :
    ofTokens? plain (tokens ++ .semicolon :: more) = .ok (statement, rest ++ .semicolon :: more) := by
  rw [ofTokens?_eq_ok] at read ⊢
  rcases read with declared | ⟨none, sql, read, lowered⟩
  · exact .inl (Declaration.readAs_append declared nofun)
  · refine .inr ⟨Declaration.opening?_append_eq_none none more, sql, ?_, lowered⟩
    obtain ⟨taken, -, rfl⟩ := separable.takes read
    cases rest with
    | nil =>
      rw [List.append_nil] at read ⊢
      exact separable.ends.mpr read
    | cons token rest =>
      obtain rfl := stops token rfl
      rw [List.append_assoc]
      exact separable.ends.mpr (separable.ends.mp read)

theorem length_lt_of_ofTokens? (separable : Separable plain) {tokens rest : List Token} {statement : Statement}
    (read : ofTokens? plain tokens = .ok (statement, rest)) : rest.length < tokens.length := by
  rcases ofTokens?_eq_ok.mp read with declared | ⟨-, sql, read, -⟩
  · exact Declaration.length_lt_of_readAs declared
  · obtain ⟨taken, nonempty, rfl⟩ := separable.takes read
    have positive := List.length_pos_of_ne_nil nonempty
    rw [List.length_append]
    omega

end Statement

/-! ## Scripts -/

namespace Script

variable {plain : Sql.Reader Sql.Statement}

theorem ofTokens?_nil : ofTokens? plain [] = .ok [] := by
  rw [ofTokens?]

theorem ofTokens?_semicolon (tokens : List Token) :
    ofTokens? plain (.semicolon :: tokens) = ofTokens? plain tokens := by
  rw [ofTokens?]

theorem ofTokens?_semicolons (n : Nat) (tokens : List Token) :
    ofTokens? plain (.replicate n .semicolon ++ tokens) = ofTokens? plain tokens := by
  induction n with
  | zero => rfl
  | succ n ih => rw [List.replicate_succ, List.cons_append, ofTokens?_semicolon, ih]

/-- Behind a statement and a semicolon the other statements are read. -/
theorem ofTokens?_statement (separable : Separable plain) {token : Token} {more rest : List Token}
    {statement : Statement} (noSemicolon : token ≠ .semicolon)
    (read : Statement.ofTokens? plain (token :: more) = .ok (statement, .semicolon :: rest)) :
    ofTokens? plain (token :: more) = (statement :: ·) <$> ofTokens? plain rest := by
  have shorter : rest.length ≤ more.length := by
    have less := Statement.length_lt_of_ofTokens? separable read
    simp only [List.length_cons] at less
    omega
  rw [ofTokens?, read]
  · exact dif_pos shorter
  · exact noSemicolon

theorem ofTokens?_last {token : Token} {more : List Token} {statement : Statement}
    (noSemicolon : token ≠ .semicolon)
    (read : Statement.ofTokens? plain (token :: more) = .ok (statement, [])) :
    ofTokens? plain (token :: more) = .ok [statement] := by
  rw [ofTokens?, read]
  exact noSemicolon

/-- Each statement of a script is read off some of its tokens. -/
theorem mem_of_ofTokens? {tokens : List Token} {statements : List Statement} {statement : Statement}
    (read : ofTokens? plain tokens = .ok statements) (member : statement ∈ statements) :
    ∃ behind rest, Statement.ofTokens? plain behind = .ok (statement, rest) := by
  fun_induction ofTokens? plain tokens generalizing statements with
  | case1 =>
    cases read
    cases member
  | case2 rest ih => exact ih read member
  | case3 => cases read
  | case4 token more _ other last =>
    cases read
    obtain rfl := List.mem_singleton.mp member
    exact ⟨_, _, last⟩
  | case5 token more _ other rest next _ ih =>
    obtain ⟨others, script, rfl⟩ := map_eq_ok.mp read
    rcases List.mem_cons.mp member with rfl | member
    · exact ⟨_, _, next⟩
    · exact ih script member
  | case6 => cases read
  | case7 => cases read

/-- Statements that are read are read alike before a semicolon, and behind it what follows. The induction is
along the statements; each of them ends at a semicolon or at the end. -/
theorem ofTokens?_append (separable : Separable plain) {first : List Token} {statements : List Statement}
    (read : ofTokens? plain first = .ok statements) (more : List Token) :
    ofTokens? plain (first ++ .semicolon :: more) = (statements ++ ·) <$> ofTokens? plain more := by
  fun_induction ofTokens? plain first generalizing statements with
  | case1 =>
    cases read
    rw [List.nil_append, ofTokens?_semicolon]
    cases ofTokens? plain more <;> rfl
  | case2 rest ih =>
    rw [List.cons_append, ofTokens?_semicolon]
    exact ih read
  | case3 => cases read
  | case4 token tokens noSemicolon statement last =>
    cases read
    have before := Statement.ofTokens?_append separable last nofun more
    exact ofTokens?_statement separable noSemicolon before
  | case5 token tokens noSemicolon statement rest next _ ih =>
    cases others : ofTokens? plain rest with
    | error fault =>
      rw [others] at read
      cases read
    | ok others' =>
      rw [others] at read
      cases read
      -- the statement ends at a semicolon of its own, and the induction hypothesis is about what is behind it
      have stops : ∀ token ∈ (Token.semicolon :: rest).head?, token = .semicolon := by
        rintro _ ⟨rfl⟩
        rfl
      have before := Statement.ofTokens?_append separable next stops more
      rw [List.cons_append, List.cons_append] at before
      rw [List.cons_append, ofTokens?_statement separable noSemicolon before, ih others]
      cases ofTokens? plain more <;> rfl
  | case6 => cases read
  | case7 => cases read

/-- Scripts with semicolons between them are read one after the other: the statements of one that is read come
before those of the next, or the next fails as it does alone. Any number of semicolons may stand there, as
before and behind a script. Each statement takes tokens, so the reading goes on to the end. -/
theorem ofTokens?_separated (separable : Separable plain) :
    (∀ tokens statement rest, Statement.ofTokens? plain tokens = .ok (statement, rest) →
      rest.length < tokens.length) ∧
    (∀ first statements, ofTokens? plain first = .ok statements → ∀ n more,
      ofTokens? plain (first ++ (.replicate (n + 1) .semicolon ++ more)) =
        (statements ++ ·) <$> ofTokens? plain more) ∧
    (∀ n tokens, ofTokens? plain (.replicate n .semicolon ++ tokens) = ofTokens? plain tokens) ∧
    (∀ first statements, ofTokens? plain first = .ok statements → ∀ n,
      ofTokens? plain (first ++ .replicate n .semicolon) = .ok statements) := by
  have between (first : List Token) (statements : List Statement) (read : ofTokens? plain first = .ok statements)
      (n : Nat) (more : List Token) :
      ofTokens? plain (first ++ (.replicate (n + 1) .semicolon ++ more)) =
        (statements ++ ·) <$> ofTokens? plain more := by
    rw [List.replicate_succ, List.cons_append, ofTokens?_append separable read, ofTokens?_semicolons]
  refine ⟨fun _ _ _ => Statement.length_lt_of_ofTokens? separable, between, ofTokens?_semicolons, ?_⟩
  intro first statements read n
  cases n with
  | zero => rwa [List.replicate_zero, List.append_nil]
  | succ n =>
    have behind := between first statements read n []
    rw [List.append_nil, ofTokens?_nil] at behind
    rw [behind]
    exact congrArg Except.ok (List.append_nil statements)

/-! The word COMMIT is a statement of SQL that is no declaration and no query. -/

/-- Reads COMMIT alone. -/
def commit : Sql.Reader Sql.Statement := do
  Sql.Reader.expectKeyword "COMMIT"
  return .other "COMMIT"

theorem read_commit_iff {tokens rest : List Token} {statement : Sql.Statement} :
    commit tokens = .ok (statement, rest) ↔
      ∃ taken, tokens = taken ++ rest ∧ Sql.Reader.Keywords ["COMMIT"] taken ∧ statement = .other "COMMIT" := by
  constructor
  · intro read
    obtain ⟨_, between, expected, answered⟩ := Sql.Reader.read_bind_iff.mp read
    obtain ⟨taken, rfl, words⟩ := Sql.Reader.read_expectKeywords_iff.mp expected
    obtain ⟨rfl, rfl⟩ := Sql.Reader.read_pure_iff.mp answered
    exact ⟨taken, rfl, words, rfl⟩
  · rintro ⟨taken, rfl, words, rfl⟩
    have expected := Sql.Reader.read_expectKeywords_iff.mpr ⟨taken, Eq.refl (taken ++ rest), words⟩
    exact Sql.Reader.read_bind_iff.mpr ⟨(), rest, expected, rfl⟩

theorem separable_commit : Separable commit where
  takes := by
    intro tokens statement rest read
    obtain ⟨taken, rfl, word, -⟩ := read_commit_iff.mp read
    refine ⟨taken, ?_, rfl⟩
    rintro rfl
    cases word
  ends := by
    intro taken statement rest
    rw [read_commit_iff, read_commit_iff]
    simp

/-- Two semicolons between a statement of SQL and a load, and one behind it. -/
theorem ofTokens?_separated_commit :
    let load : List Token :=
      [.word "LOAD" none, .word "DATA" none, .word "INFILE" none, .string .plain "a.mp4", .word "INTO" none,
        .word "MyVideo" none]
    let loaded := Statement.loadData { table := { table := "MyVideo" }, path := "a.mp4" }
    Separable commit ∧ ofTokens? commit [.word "COMMIT" none] = .ok [.unsupported "COMMIT"] ∧
      ofTokens? commit (.word "COMMIT" none :: .semicolon :: .semicolon :: load) =
        .ok [.unsupported "COMMIT", loaded] := by
  intro load loaded
  have all := ofTokens?_separated separable_commit
  have committed : commit [.word "COMMIT" none] = .ok (.other "COMMIT", []) :=
    read_commit_iff.mpr ⟨[_], rfl, .cons (by decide +kernel) .nil, rfl⟩
  have first : ofTokens? commit [.word "COMMIT" none] = .ok [.unsupported "COMMIT"] :=
    ofTokens?_last nofun (Statement.ofTokens?_eq_ok.mpr (.inr ⟨rfl, _, committed, rfl⟩))
  have word (name value : String) (upper : Text.asciiUppercase value = name) :
      Declaration.asRead.word name (.word value none) :=
    Declaration.asRead_word_iff.mpr ⟨value, none, rfl, upper⟩
  have noTable : ¬ Declaration.asRead.word "TABLE" (.word "MyVideo" none) := by
    show ¬ Declaration.word? (.word "MyVideo" none) = some "TABLE"
    decide +kernel
  have named : Declaration.TableName [.word "MyVideo" none] [⟨"MyVideo", none⟩] := .one ⟨_, rfl, rfl⟩
  have path : Declaration.asRead.path (.string .plain "a.mp4") "a.mp4" := rfl
  have declared : Declaration.ReadAs load loaded [] :=
    Declaration.readAs_iff_derives.mpr ⟨load, rfl, .load (word "LOAD" _ (by decide +kernel))
      (word "DATA" _ (by decide +kernel)) (word "INFILE" _ (by decide +kernel)) path
      (word "INTO" _ (by decide +kernel)) (.name noTable named), fun _ _ => nofun⟩
  have second : ofTokens? commit load = .ok [loaded] :=
    ofTokens?_last nofun (Statement.ofTokens?_eq_ok.mpr (.inl declared))
  refine ⟨separable_commit, first, ?_⟩
  have both := all.2.1 _ _ first 1 load
  rw [second] at both
  exact both

end Script

end VideoPlan
