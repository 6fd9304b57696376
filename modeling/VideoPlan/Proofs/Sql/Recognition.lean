import VideoPlan.Proofs.Sql.Reader

/-!
# Readers and grammars

A grammar says which tokens may stand for a value. A reader recognizes it if it takes only tokens that the
grammar derives for its answer, and takes whatever the grammar derives before all that may follow
(`Recognizes`). What may follow matters where a reader looks ahead: behind a list with separators no other
separator may come.

For single tokens and fixed ones the two directions are one equivalence, a simp lemma for each reader.
-/

namespace VideoPlan.Sql.Reader

variable {α β : Type}

/-! ## What readers take -/

/-- A sequence of readers succeeds exactly if one behind the other does. -/
theorem read_bind_iff {reader : Reader α} {next : α → Reader β} {tokens rest : List Token} {y : β} :
    (reader >>= next) tokens = .ok (y, rest) ↔
      ∃ x between, reader tokens = .ok (x, between) ∧ next x between = .ok (y, rest) := by
  constructor
  · intro read
    cases first : reader tokens with
    | error fault =>
      have failed : (reader >>= next) tokens = .error fault := by
        show (reader tokens >>= fun read => next read.1 read.2) = _
        rw [first]
        rfl
      rw [failed] at read
      cases read
    | ok answer =>
      obtain ⟨x, between⟩ := answer
      rw [bind_of_ok first] at read
      exact ⟨x, between, rfl, read⟩
  · rintro ⟨x, between, first, second⟩
    rw [bind_of_ok first, second]

theorem read_pure_iff {x y : α} {tokens rest : List Token} :
    (pure x : Reader α) tokens = .ok (y, rest) ↔ x = y ∧ tokens = rest := by
  constructor
  · intro read
    cases read
    exact ⟨rfl, rfl⟩
  · rintro ⟨rfl, rfl⟩
    rfl

theorem read_map_iff {reader : Reader α} {f : α → β} {tokens rest : List Token} {y : β} :
    (f <$> reader) tokens = .ok (y, rest) ↔ ∃ x, reader tokens = .ok (x, rest) ∧ f x = y := by
  rw [map_eq_pure_bind, read_bind_iff]
  constructor
  · rintro ⟨x, between, read, answered⟩
    obtain ⟨rfl, rfl⟩ := read_pure_iff.mp answered
    exact ⟨x, read, rfl⟩
  · rintro ⟨x, read, rfl⟩
    exact ⟨x, rest, read, rfl⟩

theorem read_accept_iff {wanted : Token} {tokens rest : List Token} {found : Bool} :
    accept wanted tokens = .ok (found, rest) ↔
      found = true ∧ tokens = wanted :: rest ∨
        found = false ∧ tokens.head? ≠ some wanted ∧ tokens = rest := by
  cases tokens with
  | nil => simp [accept, eq_comm]
  | cons token tokens =>
    unfold accept
    by_cases same : token = wanted
    · subst same
      simp [eq_comm]
    · have other : wanted ≠ token := fun equal => same equal.symm
      simp [same, other, eq_comm]

theorem read_expect_iff {wanted : Token} {tokens rest : List Token} {x : Unit} :
    expect wanted tokens = .ok (x, rest) ↔ tokens = wanted :: rest := by
  constructor
  · intro read
    unfold expect at read
    obtain ⟨found, between, accepted, answered⟩ := read_bind_iff.mp read
    rcases read_accept_iff.mp accepted with ⟨rfl, rfl⟩ | ⟨rfl, -, rfl⟩
    · obtain ⟨-, rfl⟩ := read_pure_iff.mp answered
      rfl
    · cases answered
  · rintro rfl
    exact read_expect wanted rest

/-- These words without quotes, one token for each. -/
def Keywords (names : List String) (taken : List Token) : Prop :=
  List.Forall₂ (fun name token => token.isKeyword name = true) names taken

theorem afterKeywords?_eq_some_iff {names : List String} {tokens rest : List Token} :
    afterKeywords? names tokens = some rest ↔ ∃ taken, tokens = taken ++ rest ∧ Keywords names taken := by
  induction names generalizing tokens with
  | nil =>
    constructor
    · intro behind
      cases behind
      exact ⟨[], rfl, .nil⟩
    · rintro ⟨_, rfl, words⟩
      cases words
      rfl
  | cons name names ih =>
    constructor
    · intro behind
      cases tokens with
      | nil => cases behind
      | cons token tokens =>
        unfold afterKeywords? at behind
        split at behind
        · rename_i word
          obtain ⟨taken, rfl, words⟩ := ih.mp behind
          exact ⟨token :: taken, rfl, .cons word words⟩
        · cases behind
    · rintro ⟨_, rfl, words⟩
      cases words with
      | @cons _ token _ taken word words =>
        rw [List.cons_append, afterKeywords?, if_pos word]
        exact ih.mpr ⟨taken, rfl, words⟩

theorem read_acceptKeywords_iff {names : List String} {tokens rest : List Token} {found : Bool} :
    acceptKeywords names tokens = .ok (found, rest) ↔
      (found = true ∧ ∃ taken, tokens = taken ++ rest ∧ Keywords names taken) ∨
        found = false ∧ afterKeywords? names tokens = none ∧ tokens = rest := by
  rw [← afterKeywords?_eq_some_iff]
  unfold acceptKeywords
  cases afterKeywords? names tokens <;> simp [eq_comm]

/-- Words that stand there are taken. -/
theorem Keywords.accepted {names : List String} {taken : List Token} (words : Keywords names taken)
    (rest : List Token) : acceptKeywords names (taken ++ rest) = .ok (true, rest) :=
  read_acceptKeywords_iff.mpr (.inl ⟨rfl, taken, rfl, words⟩)

theorem read_expectKeywords_iff {names : List String} {tokens rest : List Token} :
    expectKeywords names tokens = .ok ((), rest) ↔ ∃ taken, tokens = taken ++ rest ∧ Keywords names taken := by
  constructor
  · intro read
    obtain ⟨found, between, accepted, answered⟩ := read_bind_iff.mp read
    rcases read_acceptKeywords_iff.mp accepted with ⟨rfl, words⟩ | ⟨rfl, -, -⟩
    · obtain ⟨-, rfl⟩ := read_pure_iff.mp answered
      exact words
    · cases answered
  · intro words
    exact read_bind_iff.mpr ⟨true, rest, read_acceptKeywords_iff.mpr (.inl ⟨rfl, words⟩), rfl⟩

/-- Words are not there if another word comes next. -/
theorem afterKeywords?_of_isKeyword {name other : String} {token : Token} (word : token.isKeyword other = true)
    (different : other ≠ name) (names : List String) (rest : List Token) :
    afterKeywords? (name :: names) (token :: rest) = none := by
  have same : token.keyword? = some other := eq_of_beq word
  have missing : ¬ token.isKeyword name = true := by simpa [Token.isKeyword, same] using different
  rw [afterKeywords?, if_neg missing]

theorem read_inParens_iff {reader : Reader α} {tokens rest : List Token} {x : α} :
    inParens reader tokens = .ok (x, rest) ↔
      ∃ inner, tokens = .leftParen :: inner ∧ reader inner = .ok (x, .rightParen :: rest) := by
  unfold inParens
  simp only [read_bind_iff, read_expect_iff, read_pure_iff]
  constructor
  · rintro ⟨_, inner, rfl, y, between, read, _, _, rfl, rfl, rfl⟩
    exact ⟨inner, rfl, read⟩
  · rintro ⟨inner, rfl, read⟩
    exact ⟨(), inner, rfl, x, _, read, (), rest, rfl, rfl, rfl⟩

/-- A reader that takes one token exactly if it means something. -/
theorem read_single_iff {reader : Reader α} {means? : Token → Option α}
    (empty : (reader []).toOption = none)
    (one : ∀ token rest, (reader (token :: rest)).toOption = (means? token).map (·, rest))
    {tokens rest : List Token} {x : α} :
    reader tokens = .ok (x, rest) ↔ ∃ token, tokens = token :: rest ∧ means? token = some x := by
  have answered_iff (answer : Except ParseFault (α × List Token)) :
      answer = .ok (x, rest) ↔ answer.toOption = some (x, rest) := by
    cases answer <;> simp [Except.toOption]
  rw [answered_iff]
  cases tokens with
  | nil => simp [empty]
  | cons token tokens =>
    rw [one, Option.map_eq_some_iff]
    constructor
    · rintro ⟨x, meant, same⟩
      cases same
      exact ⟨token, rfl, meant⟩
    · rintro ⟨other, same, meant⟩
      cases same
      exact ⟨x, meant, rfl⟩

/-! ## Grammars -/

/-- One token that stands for the value. -/
def Single (means : Token → α → Prop) (taken : List Token) (x : α) : Prop :=
  ∃ token, taken = [token] ∧ means token x

/-- Items with a separator between them, at least one. -/
inductive Separated (separator : Token) (item : List Token → α → Prop) :
    List Token → List α → Prop
  | one {taken : List Token} {x : α} (first : item taken x) : Separated separator item taken [x]
  | cons {taken more : List Token} {x : α} {xs : List α} (first : item taken x)
      (others : Separated separator item more xs) :
      Separated separator item (taken ++ separator :: more) (x :: xs)

theorem Separated.forall_mem {separator : Token} {item : List Token → α → Prop} {property : α → Prop}
    (each : ∀ taken x, item taken x → property x) {taken : List Token} {xs : List α}
    (separated : Separated separator item taken xs) : ∀ x ∈ xs, property x := by
  induction separated with
  | one first => exact List.forall_mem_singleton.mpr (each _ _ first)
  | cons first _ ih => exact List.forall_mem_cons.mpr ⟨each _ _ first, ih⟩

/-- What the grammar derives in parentheses. -/
def Enclosed (grammar : List Token → α → Prop) (taken : List Token) (x : α) : Prop :=
  ∃ inner, taken = .leftParen :: inner ++ [.rightParen] ∧ grammar inner x

/-- The reader takes what the grammar derives, and takes it before all that may follow. -/
structure Recognizes (reader : Reader α) (grammar : List Token → α → Prop)
    (Follows : List Token → Prop) : Prop where
  sound : ∀ {tokens x rest}, reader tokens = .ok (x, rest) →
    ∃ taken, tokens = taken ++ rest ∧ grammar taken x
  complete : ∀ {taken x}, grammar taken x → ∀ {rest}, Follows rest →
    reader (taken ++ rest) = .ok (x, rest)

namespace Recognizes

variable {reader : Reader α} {grammar : List Token → α → Prop} {Follows : List Token → Prop}

theorem weaken (recognizes : Recognizes reader grammar Follows) {After : List Token → Prop}
    (narrower : ∀ rest, After rest → Follows rest) : Recognizes reader grammar After where
  sound := recognizes.sound
  complete derived _ follows := recognizes.complete derived (narrower _ follows)

/-- A reader of one token. -/
theorem single {means : Token → α → Prop}
    (reads : ∀ {tokens x rest}, reader tokens = .ok (x, rest) ↔
      ∃ token, tokens = token :: rest ∧ means token x) (Follows : List Token → Prop) :
    Recognizes reader (Single means) Follows where
  sound read := by
    obtain ⟨token, rfl, meant⟩ := reads.mp read
    exact ⟨[token], rfl, token, rfl, meant⟩
  complete derived rest _ := by
    obtain ⟨token, rfl, meant⟩ := derived
    exact reads.mpr ⟨token, rfl, meant⟩

/-- A list with separators, by induction on its items. Each item must be taken before a separator and
before all that may follow the list, and no other separator may follow. -/
theorem separatedBy (separator : Token) (item : Recognizes reader grammar Follows)
    (before : ∀ rest, Follows (separator :: rest)) :
    Recognizes (Reader.separatedBy separator reader) (Separated separator grammar)
      fun rest => Follows rest ∧ rest.head? ≠ some separator where
  sound {tokens xs rest} answered := by
    fun_induction Reader.separatedBy separator reader tokens generalizing xs with
    | case1 tokens fault failed => cases answered
    | case2 tokens x read =>
      cases answered
      obtain ⟨taken, rfl, derived⟩ := item.sound read
      exact ⟨taken, rfl, .one derived⟩
    | case3 => cases answered
    | case4 tokens x between _ others _ readOthers read ih =>
      cases answered
      obtain ⟨taken, rfl, derived⟩ := item.sound read
      obtain ⟨more, rfl, derivedOthers⟩ := ih readOthers
      exact ⟨taken ++ separator :: more, by simp, .cons derived derivedOthers⟩
    | case5 => cases answered
    | case6 tokens x token between read _ =>
      cases answered
      obtain ⟨taken, rfl, derived⟩ := item.sound read
      exact ⟨taken, rfl, .one derived⟩
  complete {taken xs} derived rest follows := by
    induction derived with
    | @one taken x first =>
      have read := item.complete first follows.1
      rw [Reader.separatedBy, read]
      cases rest with
      | nil => rfl
      | cons token rest =>
        have other : token ≠ separator := fun same => follows.2 (congrArg some same)
        exact if_neg other
    | @cons taken more x xs first others ih =>
      have read := item.complete first (before (more ++ rest))
      rw [List.append_assoc, List.cons_append]
      -- behind the separator fewer tokens are left, so the reader goes on
      refine separatedBy_cons read ?_ ih
      simp only [List.length_append, List.length_cons]
      omega

/-- A reader between parentheses looks at nothing behind the closing one. -/
theorem inParens (inner : Recognizes reader grammar Follows)
    (closing : ∀ rest, Follows (.rightParen :: rest)) (After : List Token → Prop) :
    Recognizes (Reader.inParens reader) (Enclosed grammar) After where
  sound answered := by
    obtain ⟨tokens, rfl, read⟩ := read_inParens_iff.mp answered
    obtain ⟨taken, rfl, derived⟩ := inner.sound read
    exact ⟨.leftParen :: taken ++ [.rightParen], by simp, taken, rfl, derived⟩
  complete derived rest _ := by
    obtain ⟨taken, rfl, derived⟩ := derived
    refine read_inParens_iff.mpr ⟨taken ++ .rightParen :: rest, by simp, ?_⟩
    exact inner.complete derived (closing rest)

end Recognizes

/-- A list with separators ends before a token other than the separator. -/
theorem head?_of_separatedBy {reader : Reader α} {separator : Token} {tokens rest : List Token}
    {xs : List α} (answered : separatedBy separator reader tokens = .ok (xs, rest)) :
    rest.head? ≠ some separator := by
  fun_induction separatedBy separator reader tokens generalizing xs with
  | case2 =>
    cases answered
    exact nofun
  | case4 tokens x between _ others _ readOthers _ ih =>
    cases answered
    exact ih readOthers
  | case6 tokens x token between _ other =>
    cases answered
    exact fun same => other (Option.some.inj same)
  | _ => cases answered

/-! ## Names and strings -/

/-- The part of a name that a token is. -/
def identOf? : Token → Option Ident
  | .word value quote => some ⟨value, quote⟩
  | .string .plain value => some ⟨value, some '\''⟩
  | _ => none

theorem read_identifier_iff {tokens rest : List Token} {x : Ident} :
    identifier tokens = .ok (x, rest) ↔ ∃ token, tokens = token :: rest ∧ identOf? token = some x := by
  refine read_single_iff rfl fun token rest => ?_
  cases token with
  | string style value => cases style <;> rfl
  | _ => rfl

/-- The string that a token is: one in quotes, or a word that is not reserved. -/
def stringOf? : Token → Option String
  | .string .plain value => some value
  | .string .escaped value => some value
  | .string .unicode value => some value
  | .word value quote => if (Token.word value quote).isReserved then none else some value
  | _ => none

theorem read_literalString_iff {tokens rest : List Token} {x : String} :
    literalString tokens = .ok (x, rest) ↔ ∃ token, tokens = token :: rest ∧ stringOf? token = some x := by
  refine read_single_iff rfl fun token rest => ?_
  cases token with
  | string style value => cases style <;> rfl
  | word value quote =>
    unfold stringOf?
    rw [literalString, bind_of_ok (show next? (.word value quote :: rest) = _ from rfl)]
    dsimp only
    split <;> rfl
  | _ => rfl

/-- A name with its qualifiers goes on as long as points follow. -/
theorem recognizes_objectName :
    Recognizes objectName (Separated .period (Single fun token x => identOf? token = some x))
      fun rest => rest.head? ≠ some .period :=
  have part := Recognizes.single read_identifier_iff fun _ => True
  (part.separatedBy .period fun _ => trivial).weaken fun _ follows => ⟨trivial, follows⟩

end VideoPlan.Sql.Reader
