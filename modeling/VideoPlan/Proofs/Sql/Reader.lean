import Mathlib.Data.List.Basic
import VideoPlan.Sql.Reader

/-!
# Readers and the tokens they take

`Reads reader tokens x` says that a reader takes exactly these tokens for `x` where an item of a list ends:
before a comma or a closing parenthesis. Lists of such items, in parentheses, are read back item by item
(`inParens_commaSeparated`).
-/

namespace VideoPlan.Sql.Reader

variable {α β : Type}

/-- A sequence of readers goes on behind what its first reader takes. -/
theorem bind_of_ok {reader : Reader α} {next : α → Reader β} {tokens rest : List Token} {x : α}
    (reads : reader tokens = .ok (x, rest)) : (reader >>= next) tokens = next x rest := by
  show (reader tokens >>= fun read => next read.1 read.2) = next x rest
  rw [reads]
  rfl

theorem read_get (tokens : List Token) : (get : Reader (List Token)) tokens = .ok (tokens, tokens) := rfl

theorem read_set (rest tokens : List Token) : (set rest : Reader Unit) tokens = .ok ((), rest) := rfl

theorem read_peek? (distance : Nat) (tokens : List Token) :
    peek? distance tokens = .ok (tokens[distance]?, tokens) := rfl

theorem read_expect (token : Token) (rest : List Token) : expect token (token :: rest) = .ok ((), rest) := by
  unfold expect
  have accepted : accept token (token :: rest) = .ok (true, rest) := if_pos rfl
  rw [bind_of_ok accepted]
  rfl

/-- What follows an item of a list in parentheses. -/
def Closes (rest : List Token) : Prop :=
  ∃ tail, rest = .comma :: tail ∨ rest = .rightParen :: tail

theorem Closes.comma (tail : List Token) : Closes (.comma :: tail) :=
  ⟨tail, .inl rfl⟩

theorem Closes.rightParen (tail : List Token) : Closes (.rightParen :: tail) :=
  ⟨tail, .inr rfl⟩

/-- The reader takes these tokens for `x`, where an item of a list ends. -/
def Reads (reader : Reader α) (tokens : List Token) (x : α) : Prop :=
  ∀ rest, Closes rest → reader (tokens ++ rest) = .ok (x, rest)

section

variable {reader : Reader α} {tokens : α → List Token} {items : List α}

/-- Behind a separator the other items are read. -/
theorem separatedBy_cons {separator : Token} {read tail rest : List Token} {item : α}
    (taken : reader read = .ok (item, separator :: tail)) (shorter : tail.length < read.length)
    (others : separatedBy separator reader tail = .ok (items, rest)) :
    separatedBy separator reader read = .ok (item :: items, rest) := by
  rw [separatedBy, taken]
  dsimp only
  rw [if_pos rfl, dif_pos shorter, others]

/-- Items with commas between them are read up to a closing parenthesis. The induction is on the items; each
one but the last is followed by a comma. -/
theorem commaSeparated_reads (nonempty : items ≠ [])
    (reads : ∀ item ∈ items, Reads reader (tokens item) item) (rest : List Token) :
    commaSeparated reader ([.comma].intercalate (items.map tokens) ++ .rightParen :: rest) =
      .ok (items, .rightParen :: rest) := by
  unfold commaSeparated
  induction items with
  | nil => exact absurd rfl nonempty
  | cons item items ih =>
    have first := reads item List.mem_cons_self
    cases items with
    | nil =>
      have last := first (.rightParen :: rest) (.rightParen rest)
      rw [List.map_singleton, List.intercalate_singleton, separatedBy, last]
      rfl
    | cons next items =>
      have others := ih (by simp) fun other member => reads other (List.mem_cons_of_mem item member)
      have taken := first _ (.comma ([.comma].intercalate ((next :: items).map tokens) ++ .rightParen :: rest))
      rw [List.map_cons, List.map_cons, List.intercalate_cons_cons, ← List.map_cons, List.append_assoc,
        List.append_assoc, List.singleton_append]
      refine separatedBy_cons taken ?_ others
      simp only [List.length_append, List.length_cons]
      omega

/-- A list in parentheses is read up to the closing one, whatever follows. -/
theorem inParens_commaSeparated (nonempty : items ≠ [])
    (reads : ∀ item ∈ items, Reads reader (tokens item) item) (rest : List Token) :
    inParens (commaSeparated reader)
        (.leftParen :: [.comma].intercalate (items.map tokens) ++ .rightParen :: rest) =
      .ok (items, rest) := by
  have list := commaSeparated_reads nonempty reads rest
  unfold inParens
  rw [List.cons_append, bind_of_ok (read_expect _ _), bind_of_ok list, bind_of_ok (read_expect _ _)]
  rfl

end

end VideoPlan.Sql.Reader
