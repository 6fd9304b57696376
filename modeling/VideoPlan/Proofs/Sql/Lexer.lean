import Mathlib.Data.List.TakeDrop
import Mathlib.Data.List.TakeWhile
import VideoPlan.Catalog.Column
import VideoPlan.Sql.Lexer

/-!
# Tokens in their context

Where a word or a number ends depends on what follows it. `Scans text tokens` says that a text gives these
tokens before anything that stands apart from it: the end, a blank, a comma or a parenthesis. Texts that
scan can be put together, so the tokens of a printed text follow from those of its words and numbers
(`scans_word`, `scans_number`, `Scans.commaList`, `scanAll?_inParens`).

A text is one word if scanning it by itself gives a single word; that says enough about how it starts and
goes on to know its token everywhere.
-/

namespace VideoPlan.Sql

open Text Number

/-! ## Strings -/

theorem scanString?_of_next {c : Char} {cs : List Char} (first : c ≠ '\'')
    (next : ∀ d ∈ cs.head?, d ≠ '\'' ∧ d ≠ '"' ∧ d ≠ '&') : scanString? (c :: cs) = none := by
  unfold scanString?
  split <;> simp_all

theorem scanString?_of_letter {c : Char} {cs : List Char} (first : c ≠ '\'')
    (letter : c.toUpper ∉ ['B', 'R', 'N', 'X', 'E', 'U']) : scanString? (c :: cs) = none := by
  unfold scanString?
  split
  · simp_all
  · simp_all
  · simp_all
  · split
    · split <;> simp_all
    · rfl
  · rfl

/-! ## Steps -/

theorem scanAll?_nil : scanAll? [] = some [] := by
  unfold scanAll?
  rfl

/-- A token or a blank at the start comes before the tokens of what follows it. -/
theorem scanAll?_of_scanOne? {cs rest : List Char} {token : Option Token}
    (scanned : scanOne? cs = some (token, rest)) (shorter : rest.length < cs.length) :
    scanAll? cs = (scanAll? rest).map (token.toList ++ ·) := by
  cases cs with
  | nil => cases shorter
  | cons c text =>
    have fits : rest.length ≤ text.length := Nat.le_of_lt_succ shorter
    rw [scanAll?, scanned]
    exact dif_pos fits

/-- Blanks, commas and parentheses end the word or the number before them. -/
def isApart (c : Char) : Bool :=
  c = ' ' || c = ',' || c = '(' || c = ')'

/-- The token of a character that stands apart; a blank has none. -/
def apartToken? : Char → Option Token
  | ',' => some .comma
  | '(' => some .leftParen
  | ')' => some .rightParen
  | _ => none

theorem isApart_cases {c : Char} (apart : isApart c = true) : c = ' ' ∨ c = ',' ∨ c = '(' ∨ c = ')' := by
  simpa [isApart, or_assoc] using apart

/-- A character that stands apart is read by itself, whatever follows it. -/
theorem scanAll?_apart {c : Char} (apart : isApart c = true) (rest : List Char) :
    scanAll? (c :: rest) = (scanAll? rest).map ((apartToken? c).toList ++ ·) := by
  refine scanAll?_of_scanOne? ?_ (Nat.lt_succ_self _)
  unfold scanOne?
  rcases isApart_cases apart with rfl | rfl | rfl | rfl <;>
    rw [scanString?_of_letter (by decide) (by decide)] <;> rfl

/-! ## Texts that stand apart -/

/-- The text may follow a word or a number without becoming part of it. -/
def Apart (cs : List Char) : Prop :=
  ∀ c ∈ cs.head?, isApart c = true

theorem Apart.nil : Apart [] := by
  intro c none
  cases none

theorem Apart.cons {c : Char} (apart : isApart c = true) (cs : List Char) : Apart (c :: cs) := by
  intro d same
  cases same
  exact apart

theorem Apart.append {cs rest : List Char} (apart : Apart cs) (apartRest : Apart rest) :
    Apart (cs ++ rest) := by
  cases cs with
  | nil => exact apartRest
  | cons c cs => exact apart

/-- Characters that never stand apart reach up to a text that does. -/
theorem Apart.span_append {p : Char → Bool} (part : ∀ c, isApart c = true → p c = false)
    {cs rest : List Char} (all : ∀ c ∈ cs, p c = true) (apart : Apart rest) :
    (cs ++ rest).span p = (cs, rest) := by
  have stop : rest.takeWhile p = [] ∧ rest.dropWhile p = rest := by
    cases rest with
    | nil => exact ⟨rfl, rfl⟩
    | cons c rest =>
      have none := part c (apart c rfl)
      simp [none]
  rw [List.span_eq_takeWhile_dropWhile, List.takeWhile_append_of_pos all,
    List.dropWhile_append_of_pos all, stop.1, stop.2, List.append_nil]

/-- The text gives these tokens before anything that stands apart. -/
def Scans (text : List Char) (tokens : List Token) : Prop :=
  ∀ rest, Apart rest → scanAll? (text ++ rest) = (scanAll? rest).map (tokens ++ ·)

theorem Scans.nil : Scans [] [] := by
  intro rest _
  show scanAll? rest = _
  cases scanAll? rest <;> rfl

theorem Scans.append {text text' : List Char} {tokens tokens' : List Token} (scans : Scans text tokens)
    (scans' : Scans text' tokens') (apart : Apart text') : Scans (text ++ text') (tokens ++ tokens') := by
  intro rest apartRest
  rw [List.append_assoc, scans _ (apart.append apartRest), scans' rest apartRest, Option.map_map]
  congr 1
  funext behind
  exact (List.append_assoc tokens tokens' behind).symm

theorem Scans.cons {c : Char} {text : List Char} {tokens : List Token} (apart : isApart c = true)
    (scans : Scans text tokens) : Scans (c :: text) ((apartToken? c).toList ++ tokens) := by
  intro rest apartRest
  rw [List.cons_append, scanAll?_apart apart, scans rest apartRest, Option.map_map]
  congr 1
  funext behind
  exact (List.append_assoc _ tokens behind).symm

/-- Texts with commas between them give their tokens with commas between them. -/
theorem Scans.commaList {α : Type} {text : α → String} {tokens : α → List Token} {items : List α}
    (scans : ∀ item ∈ items, Scans (text item).toList (tokens item)) :
    Scans (VideoPlan.commaList (items.map text)).toList ([.comma].intercalate (items.map tokens)) := by
  unfold VideoPlan.commaList
  rw [String.toList_intercalate, List.map_map]
  induction items with
  | nil => exact .nil
  | cons item items ih =>
    have first := scans item List.mem_cons_self
    have others := ih fun other member => scans other (List.mem_cons_of_mem item member)
    cases items with
    | nil => simpa using first
    | cons next items =>
      rw [List.map_cons, List.map_cons, List.map_cons, List.map_cons, List.intercalate_cons_cons,
        List.intercalate_cons_cons, List.append_assoc, List.append_assoc]
      -- the comma and the blank between the first text and the others
      exact first.append ((others.cons (c := ' ') rfl).cons (c := ',') rfl) (.cons rfl _)

/-- A text in parentheses is read up to the closing one, whatever follows. -/
theorem scanAll?_inParens {text : List Char} {tokens : List Token} (scans : Scans text tokens)
    (rest : List Char) :
    scanAll? ('(' :: text ++ ')' :: rest) =
      (scanAll? rest).map (.leftParen :: tokens ++ .rightParen :: ·) := by
  rw [List.cons_append, scanAll?_apart rfl, scans _ (.cons rfl rest), scanAll?_apart rfl, Option.map_map,
    Option.map_map]
  rfl

theorem Scans.inParens {text : List Char} {tokens : List Token} (scans : Scans text tokens) :
    Scans ('(' :: text ++ [')']) (.leftParen :: tokens ++ [.rightParen]) := by
  intro rest _
  rw [List.append_assoc, List.singleton_append, scanAll?_inParens scans]
  congr 1
  funext behind
  rw [List.append_assoc, List.singleton_append]

/-! ## Words -/

theorem isWordPart_of_isApart {c : Char} (apart : isApart c = true) : isWordPart c = false := by
  rcases isApart_cases apart with rfl | rfl | rfl | rfl <;> decide

/-- What a word without quotes starts with: a letter, or a sign and a character that makes no operator with
it. -/
inductive Opens : List Char → Prop
  | letter {c : Char} : isWordStart c = true → c.isDigit = false → c ≠ '#' → c ≠ '@' → Opens [c]
  | hash {c : Char} : c ≠ '-' → c ≠ '>' → c ≠ ' ' → Opens ['#', c]
  | sign {c : Char} : c ≠ '@' → c ≠ '>' → c ≠ '?' → c ≠ ' ' → Opens ['@', c]
  | twoSigns {c : Char} : c ≠ ' ' → Opens ['@', '@', c]

/-- A word is scanned from its opening on, unless a single letter opens a string. -/
theorem scanOne?_of_opens {start more : List Char} (opens : Opens start)
    (next : ∀ d ∈ more.head?, d ≠ '\'' ∧ d ≠ '"' ∧ d ≠ '&') :
    scanOne? (start ++ more) = some (some (scanWord start more).1, (scanWord start more).2) := by
  unfold scanOne?
  cases opens with
  | @letter c starts noDigit noHash noSign =>
    have ne : ∀ d, isWordStart d = false → c ≠ d := by
      rintro d other rfl
      rw [starts] at other
      cases other
    rw [List.singleton_append, scanString?_of_next (ne '\'' (by decide)) next]
    dsimp only
    unfold scanPlain?
    split
    case h_1 heq => cases heq
    case h_10 heq =>
      cases heq
      simp [starts, noDigit, noHash, noSign, ne '"' (by decide), ne '`' (by decide), ne '.' (by decide)]
    all_goals
      rename_i heq
      cases heq
      exact absurd starts (by decide)
  | @hash c noMinus noGreater noBlank =>
    rw [List.cons_append, scanString?_of_letter (by decide) (by decide)]
    unfold scanPlain?
    simp [scanSigned, noMinus, noGreater, noBlank]
  | @sign c noSign noGreater noQuestion noBlank =>
    rw [List.cons_append, scanString?_of_letter (by decide) (by decide)]
    unfold scanPlain?
    simp [scanSigned, noSign, noGreater, noQuestion, noBlank]
  | @twoSigns c noBlank =>
    rw [List.cons_append, scanString?_of_letter (by decide) (by decide)]
    unfold scanPlain?
    simp [scanSigned, noBlank]

theorem scanWord_eq (start more : List Char) :
    scanWord start more =
      (.word (String.ofList (start ++ more.takeWhile isWordPart)) none, more.dropWhile isWordPart) := by
  rw [scanWord, List.span_eq_takeWhile_dropWhile]

/-! ### What is no word -/

theorem keyword?_stringToken? {style : StringStyle} {text : Option Scanned} {token : Token}
    {rest : List Char} (scanned : stringToken? style text = some (some token, rest)) :
    token.keyword? = none := by
  obtain ⟨_, -, same⟩ := Option.map_eq_some_iff.mp scanned
  cases same
  rfl

theorem keyword?_scanRaw? {quote : Char} {cs rest : List Char} {token : Token}
    (scanned : scanRaw? quote cs = some (some token, rest)) : token.keyword? = none := by
  unfold scanRaw? at scanned
  split at scanned
  · cases scanned
  · exact keyword?_stringToken? scanned
  · cases scanned
    rfl
  · exact keyword?_stringToken? scanned

theorem keyword?_scanString? {cs rest : List Char} {token : Token}
    (scanned : scanString? cs = some (some (some token, rest))) : token.keyword? = none := by
  unfold scanString? at scanned
  split at scanned
  · exact keyword?_stringToken? (Option.some.inj scanned)
  · exact keyword?_stringToken? (Option.some.inj scanned)
  · exact keyword?_stringToken? (Option.some.inj scanned)
  · split at scanned
    · split at scanned
      · exact keyword?_stringToken? (Option.some.inj scanned)
      · exact keyword?_scanRaw? (Option.some.inj scanned)
      · split at scanned
        · exact keyword?_stringToken? (Option.some.inj scanned)
        · cases scanned
      · split at scanned
        · exact keyword?_stringToken? (Option.some.inj scanned)
        · cases scanned
      · split at scanned
        · exact keyword?_stringToken? (Option.some.inj scanned)
        · cases scanned
      · cases scanned
    · cases scanned
  · cases scanned

theorem keyword?_scanDollar? {cs rest : List Char} {token : Token}
    (scanned : scanDollar? cs = some (some token, rest)) : token.keyword? = none := by
  unfold scanDollar? at scanned
  dsimp only at scanned
  split at scanned
  · exact keyword?_stringToken? scanned
  · exact keyword?_stringToken? scanned
  · cases scanned
    rfl

theorem keyword?_scanNumber (cs : List Char) : (scanNumber cs).1.keyword? = none := by
  unfold scanNumber
  dsimp only
  split
  · rfl
  · split <;> split <;> rfl

theorem keyword?_scanOperator? {cs rest : List Char} {token : Token}
    (scanned : scanOperator? cs = some (token, rest)) : token.keyword? = none := by
  obtain ⟨spelling, -, same⟩ := Option.map_eq_some_iff.mp scanned
  cases same
  rfl

/-! ### What is a word -/

theorem scanSigned_eq_some {sign cs rest : List Char} {apart : Char → Bool} {token : Token}
    (scanned : scanSigned sign cs apart = some (token, rest)) :
    ∃ c more, cs = c :: more ∧ apart c = false ∧ scanWord (sign ++ [c]) more = (token, rest) := by
  cases cs with
  | nil => cases scanned
  | cons c more =>
    dsimp only [scanSigned] at scanned
    split at scanned
    · cases scanned
    · rename_i noApart
      exact ⟨c, more, rfl, Bool.eq_false_iff.mpr noApart, Option.some.inj scanned⟩

/-- A word is only read from its opening on. -/
theorem opens_of_scanPlain? {cs rest : List Char} {value : String}
    (scanned : scanPlain? cs = some (some (.word value none), rest)) :
    ∃ start more, cs = start ++ more ∧ Opens start ∧ scanWord start more = (.word value none, rest) := by
  unfold scanPlain? at scanned
  split at scanned
  case h_3 =>
    obtain ⟨_, -, same⟩ := Option.map_eq_some_iff.mp scanned
    cases same
  case h_8 => cases keyword?_scanDollar? scanned
  case h_10 c tail _ _ _ _ _ _ _ _ =>
    -- a quoted word has its quotes
    split at scanned
    · obtain ⟨_, -, same⟩ := Option.map_eq_some_iff.mp scanned
      cases same
    split at scanned
    · have number := keyword?_scanNumber (c :: tail)
      simp only [Option.some.injEq, Prod.mk.injEq] at scanned
      rw [scanned.1] at number
      cases number
    rename_i noDigit
    split at scanned
    -- a sign opens a word unless it opens an operator
    · rename_i sign
      dsimp only at scanned
      split at scanned
      · rename_i found
        cases scanned
        split at found
        · obtain ⟨d, more, rfl, apart, word⟩ := scanSigned_eq_some found
          exact ⟨['@', '@', d], more, rfl, .twoSigns (by simpa using apart), word⟩
        · rename_i noSecond
          obtain ⟨d, more, rfl, apart, word⟩ := scanSigned_eq_some found
          have other : d ≠ '@' := fun second => noSecond more (by rw [second])
          simp only [Bool.or_eq_false_iff, decide_eq_false_iff_not] at apart
          exact ⟨['@', d], more, rfl, .sign other apart.1.1 apart.1.2 apart.2, word⟩
        · rename_i noSign _
          obtain ⟨d, more, rfl, apart, word⟩ := scanSigned_eq_some found
          have hash : c = '#' := by simpa [show c ≠ '@' from noSign] using sign
          subst hash
          simp only [Bool.or_eq_false_iff, decide_eq_false_iff_not] at apart
          exact ⟨['#', d], more, rfl, .hash apart.1.1 apart.1.2 apart.2, word⟩
      · obtain ⟨⟨_, _⟩, found, same⟩ := Option.map_eq_some_iff.mp scanned
        cases same
        cases keyword?_scanOperator? found
    rename_i noSign
    split at scanned
    · rename_i starts
      simp only [Bool.or_eq_true, decide_eq_true_eq, not_or, Bool.not_eq_true] at noDigit noSign
      simp only [Option.some.injEq, Prod.mk.injEq] at scanned
      exact ⟨[c], tail, rfl, .letter starts noDigit.1 noSign.1 noSign.2, Prod.ext scanned.1 scanned.2⟩
    split at scanned
    · cases scanned
    split at scanned
    · rename_i found
      cases scanned
      cases keyword?_scanOperator? found
    · cases scanned
  all_goals cases scanned

theorem opens_of_scanOne? {cs rest : List Char} {value : String}
    (scanned : scanOne? cs = some (some (.word value none), rest)) :
    ∃ start more, cs = start ++ more ∧ Opens start ∧ scanWord start more = (.word value none, rest) := by
  unfold scanOne? at scanned
  split at scanned
  · rename_i found
    rw [scanned] at found
    cases keyword?_scanString? found
  · exact opens_of_scanPlain? scanned

/-- A word stands in the text as it is. -/
theorem eq_append_of_scanOne? {cs rest : List Char} {value : String}
    (scanned : scanOne? cs = some (some (.word value none), rest)) : cs = value.toList ++ rest := by
  obtain ⟨start, more, rfl, -, word⟩ := opens_of_scanOne? scanned
  rw [scanWord_eq] at word
  cases word
  rw [String.toList_ofList, List.append_assoc, List.takeWhile_append_dropWhile]

/-- No word is longer than the text that it is scanned from. -/
theorem length_le_of_mem_scanAll? {cs : List Char} {tokens : List Token} {value : String}
    (scanned : scanAll? cs = some tokens) (member : .word value none ∈ tokens) :
    value.toList.length ≤ cs.length := by
  fun_induction scanAll? cs generalizing tokens with
  | case1 => cases scanned; cases member
  | case2 => cases scanned
  | case3 c text token rest step fits ih =>
    obtain ⟨behind, hbehind, rfl⟩ := Option.map_eq_some_iff.mp scanned
    rcases List.mem_append.mp member with first | later
    · rw [Option.mem_toList] at first
      cases first
      rw [eq_append_of_scanOne? step, List.length_append]
      exact Nat.le_add_right _ _
    · exact Nat.le_succ_of_le (Nat.le_trans (ih hbehind later) fits)
  | case4 => cases scanned

/-- A text that gives itself as its only token is read in one step. -/
theorem scanOne?_of_scan? {name : String} (word : Token.scan? name = some [.word name none]) :
    scanOne? name.toList = some (some (.word name none), []) := by
  unfold Token.scan? at word
  cases chars : name.toList with
  | nil =>
    rw [chars, scanAll?_nil] at word
    cases word
  | cons c text =>
    rw [chars, scanAll?] at word
    split at word
    · cases word
    rename_i token rest step
    split at word
    · rename_i fits
      obtain ⟨behind, hbehind, same⟩ := Option.map_eq_some_iff.mp word
      cases token with
      | none =>
        -- the word would be scanned from what is shorter than itself
        have member : .word name none ∈ behind := by simp [show behind = _ from same]
        have length := length_le_of_mem_scanAll? hbehind member
        rw [chars, List.length_cons] at length
        omega
      | some token =>
        cases same
        have whole := eq_append_of_scanOne? step
        rw [← chars] at whole
        have nothing : rest = [] := List.self_eq_append_right.mp whole
        rw [step, nothing]
    · cases word

theorem next_of_isWordPart {cs rest : List Char} (parts : ∀ c ∈ cs, isWordPart c = true)
    (apart : Apart rest) : ∀ d ∈ (cs ++ rest).head?, d ≠ '\'' ∧ d ≠ '"' ∧ d ≠ '&' := by
  have other : ∀ d, isWordPart d = true ∨ isApart d = true → d ≠ '\'' ∧ d ≠ '"' ∧ d ≠ '&' := by
    rintro d either
    refine ⟨?_, ?_, ?_⟩ <;> rintro rfl <;> exact absurd either (by decide)
  intro d head
  cases cs with
  | nil => exact other d (.inr (apart d head))
  | cons c cs =>
    obtain rfl : c = d := Option.some.inj head
    exact other c (.inl (parts c List.mem_cons_self))

/-- A name that is one word by itself is this word before anything that stands apart. -/
theorem scans_word {name : String} (word : Token.scan? name = some [.word name none]) :
    Scans name.toList [.word name none] := by
  obtain ⟨start, more, chars, opens, read⟩ := opens_of_scanOne? (scanOne?_of_scan? word)
  have parts : ∀ c ∈ more, isWordPart c = true := by
    rw [scanWord_eq] at read
    exact List.dropWhile_eq_nil_iff.mp (congrArg Prod.snd read)
  have text : String.ofList (start ++ more) = name := by rw [← chars, String.ofList_toList]
  intro rest apart
  have step : scanOne? (name.toList ++ rest) = some (some (.word name none), rest) := by
    rw [chars, List.append_assoc, scanOne?_of_opens opens (next_of_isWordPart parts apart), scanWord,
      apart.span_append (fun _ => isWordPart_of_isApart) parts, ← text]
  refine scanAll?_of_scanOne? step ?_
  have positive : 0 < start.length := by cases opens <;> exact Nat.succ_pos _
  rw [chars, List.length_append, List.length_append]
  omega

/-! ## Numbers -/

theorem isWordPart_of_isDigit {c : Char} (digit : c.isDigit = true) : isWordPart c = true := by
  simp [isWordPart, digit]

theorem isDigit_of_isApart {c : Char} (apart : isApart c = true) : c.isDigit = false := by
  rcases isApart_cases apart with rfl | rfl | rfl | rfl <;> rfl

theorem Apart.head?_ne {cs : List Char} (apart : Apart cs) {c : Char} (other : isApart c = false) :
    cs.head? ≠ some c := by
  intro same
  have apart := apart c same
  rw [other] at apart
  cases apart

theorem Apart.scanExponent {cs : List Char} (apart : Apart cs) : scanExponent cs = ([], cs) := by
  cases cs with
  | nil => rfl
  | cons c cs => rcases isApart_cases (apart c rfl) with rfl | rfl | rfl | rfl <;> rfl

/-- Digits are a number before anything that stands apart. -/
theorem scanNumber_digits {digits rest : List Char} (all : ∀ c ∈ digits, c.isDigit = true)
    (nonempty : digits ≠ []) (apart : Apart rest) :
    scanNumber (digits ++ rest) = (.number (String.ofList digits) false, rest) := by
  have nothing : rest.span Char.isDigit = ([], rest) :=
    apart.span_append (fun _ => isDigit_of_isApart) (List.forall_mem_nil _)
  unfold scanNumber
  rw [apart.span_append (fun _ => isDigit_of_isApart) all]
  dsimp only
  split
  · exact absurd rfl (apart.head?_ne (c := 'x') rfl)
  · rw [if_neg (apart.head?_ne (c := '.') rfl), List.length_nil, List.drop_zero, nothing]
    simp [apart.head?_ne (c := 'L') rfl, nonempty, apart.scanExponent]

theorem scanOne?_digits {digits rest : List Char} (all : ∀ c ∈ digits, c.isDigit = true)
    (nonempty : digits ≠ []) (apart : Apart rest) :
    scanOne? (digits ++ rest) = some (some (.number (String.ofList digits) false), rest) := by
  have number := scanNumber_digits all nonempty apart
  cases digits with
  | nil => exact absurd rfl nonempty
  | cons c digits =>
    have digit := all c List.mem_cons_self
    have parts : ∀ d ∈ digits, isWordPart d = true := fun d member =>
      isWordPart_of_isDigit (all d (List.mem_cons_of_mem c member))
    have ne : ∀ d, d.isDigit = false → c ≠ d := by
      rintro d other rfl
      rw [digit] at other
      cases other
    unfold scanOne?
    rw [List.cons_append] at number ⊢
    rw [scanString?_of_next (ne '\'' rfl) (next_of_isWordPart parts apart)]
    dsimp only
    unfold scanPlain?
    generalize digits ++ rest = behind at number ⊢
    split
    case h_1 heq => cases heq
    case h_10 heq =>
      cases heq
      simp [digit, number, ne '"' rfl, ne '`' rfl]
    all_goals
      rename_i heq
      cases heq
      cases digit

/-- A number is written as its token. -/
theorem scans_number (n : Nat) : Scans (toString n).toList [.number (toString n) false] := by
  have chars : (toString n).toList = Nat.toDigits 10 n := Nat.toList_repr
  have text : String.ofList (Nat.toDigits 10 n) = toString n := by rw [← chars, String.ofList_toList]
  have all : ∀ c ∈ Nat.toDigits 10 n, c.isDigit = true := fun c member =>
    Nat.isDigit_of_mem_toDigits (by decide) (by decide) member
  intro rest apart
  have step := scanOne?_digits all Nat.toDigits_ne_nil apart
  rw [text] at step
  rw [chars]
  refine scanAll?_of_scanOne? step ?_
  have positive : 0 < (Nat.toDigits 10 n).length := Nat.length_toDigits_pos
  rw [List.length_append]
  omega

end VideoPlan.Sql
