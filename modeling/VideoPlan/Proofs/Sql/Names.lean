import Mathlib.Data.List.Forall2
import VideoPlan.Proofs.Text.Casing
import VideoPlan.Sql.Name

/-!
# Names as they are written

A function is known by its name as it is written, with all parts, in upper case. Upper-casing goes through the way
in which names are written (`uppercase_dotted`), so names of which each part differs in case only become the same
text. The converse fails: quotes inside quotes are doubled, but not those that are doubled already or stand behind a
backslash, so different names can be written in the same way. Names that tell their parts (`tellsParts`) are written in
the same way only if all their parts are the same (`dotted_injective`).
-/

namespace VideoPlan.Sql

open Text

/-! ## Quotes inside quotes -/

/-- The characters that a name in quotes starts with. -/
def openings : List Char := ['"', '\'', '`', '[']

theorem isMark_of_mem_openings : ∀ c ∈ openings, IsMark c := by
  simp only [openings, List.forall_mem_cons]
  exact ⟨by decide +kernel, by decide +kernel, by decide +kernel, by decide +kernel, nofun⟩

theorem isMark_backslash : IsMark '\\' := by decide +kernel

theorem isMark_bracket : IsMark ']' := by decide +kernel

/-- The text with every quote doubled. -/
def eachDoubled (quote : Char) (cs : List Char) : List Char :=
  cs.flatMap fun c => if c = quote then [c, c] else [c]

section

variable {quote previous c : Char}

theorem doubleQuotes_cons_of_ne (other : c ≠ quote) (previous : Char) (cs : List Char) :
    doubleQuotes quote previous (c :: cs) = c :: doubleQuotes quote c cs := by
  cases cs with
  | nil => simp [doubleQuotes, other]
  | cons d rest => simp [doubleQuotes, other]

/-- A quote behind a backslash stays as it is, and so do those behind it. -/
theorem doubleQuotes_escaped (quote : Char) (cs : List Char) :
    doubleQuotes quote '\\' (quote :: cs) = quote :: doubleQuotes quote '\\' cs := by
  cases cs with
  | nil => simp [doubleQuotes]
  | cons d rest => simp [doubleQuotes]

theorem doubleQuotes_pair (unescaped : previous ≠ '\\') (cs : List Char) :
    doubleQuotes quote previous (quote :: quote :: cs) = quote :: quote :: doubleQuotes quote quote cs := by
  simp [doubleQuotes, unescaped]

theorem doubleQuotes_single (unescaped : previous ≠ '\\') {cs : List Char} (single : cs.head? ≠ some quote) :
    doubleQuotes quote previous (quote :: cs) = quote :: quote :: doubleQuotes quote quote cs := by
  cases cs with
  | nil => simp [doubleQuotes, unescaped]
  | cons d rest =>
    have other : d ≠ quote := fun same => single (congrArg some same)
    simp [doubleQuotes, unescaped, other]

theorem doubleQuotes_append {cs : List Char} (unquoted : quote ∉ cs) (previous : Char) (rest : List Char) :
    doubleQuotes quote previous (cs ++ rest) = cs ++ doubleQuotes quote (cs.getLastD previous) rest := by
  induction cs generalizing previous with
  | nil => rfl
  | cons c cs ih =>
    obtain ⟨other, others⟩ := not_or.mp (mt List.mem_cons.mpr unquoted)
    rw [List.cons_append, doubleQuotes_cons_of_ne (Ne.symm other), ih others, List.getLastD_cons, List.cons_append]

/-- A backslash ends the upper case of nothing but a backslash. -/
theorem getLastD_upperChar_eq_backslash (c previous : Char) :
    (upperChar c).getLastD previous = '\\' ↔ c = '\\' := by
  constructor
  · intro last
    rw [List.getLastD_eq_getLast?, List.getLast?_eq_some_getLast (upperChar_ne_nil c), Option.getD_some] at last
    exact (mem_upperChar_iff isMark_backslash).mp (last ▸ List.getLast_mem _)
  · rintro rfl
    rw [isMark_backslash.kept]
    rfl

theorem head?_flatMap_upperChar (isMark : IsMark quote) {cs : List Char} (single : cs.head? ≠ some quote) :
    (cs.flatMap upperChar).head? ≠ some quote := by
  cases cs with
  | nil => exact single
  | cons c cs =>
    rw [List.flatMap_cons, List.head?_append_of_ne_nil _ (upperChar_ne_nil c)]
    intro first
    exact single (congrArg some ((mem_upperChar_iff isMark).mp (List.mem_of_head? first)))

/-- Upper-casing leaves the quotes of a text where they are, so they are doubled in the same places. -/
theorem doubleQuotes_flatMap_upperChar (isMark : IsMark quote) : ∀ (cs : List Char) {previous previous' : Char},
    (previous = '\\' ↔ previous' = '\\') →
      doubleQuotes quote previous' (cs.flatMap upperChar) = (doubleQuotes quote previous cs).flatMap upperChar
  | [], _, _, _ => rfl
  | c :: cs, previous, previous', same => by
    rw [List.flatMap_cons]
    by_cases quoted : quote = c
    · subst quoted
      rw [isMark.kept, List.singleton_append]
      by_cases escaped : previous = '\\'
      · obtain rfl := same.mp escaped
        subst escaped
        rw [doubleQuotes_escaped, doubleQuotes_escaped, List.flatMap_cons, isMark.kept,
          doubleQuotes_flatMap_upperChar isMark cs Iff.rfl, List.singleton_append]
      · have escaped' : previous' ≠ '\\' := mt same.mpr escaped
        -- two quotes are passed at once, so the induction is on the length
        by_cases pair : cs.head? = some quote
        · obtain ⟨rest, rfl⟩ := List.head?_eq_some_iff.mp pair
          rw [List.flatMap_cons, isMark.kept, List.singleton_append, doubleQuotes_pair escaped',
            doubleQuotes_pair escaped, doubleQuotes_flatMap_upperChar isMark rest Iff.rfl, List.flatMap_cons,
            List.flatMap_cons, isMark.kept]
          rfl
        · rw [doubleQuotes_single escaped' (head?_flatMap_upperChar isMark pair), doubleQuotes_single escaped pair,
            doubleQuotes_flatMap_upperChar isMark cs Iff.rfl, List.flatMap_cons, List.flatMap_cons, isMark.kept]
          rfl
    · have other : c ≠ quote := Ne.symm quoted
      have unquoted : quote ∉ upperChar c := mt (mem_upperChar_iff isMark).mp other
      rw [doubleQuotes_append unquoted, doubleQuotes_cons_of_ne other, List.flatMap_cons,
        doubleQuotes_flatMap_upperChar isMark cs (getLastD_upperChar_eq_backslash c previous').symm]
termination_by cs => cs.length

theorem eachDoubled_cons (quote c : Char) (cs : List Char) :
    eachDoubled quote (c :: cs) = c :: ((if c = quote then [c] else []) ++ eachDoubled quote cs) := by
  rw [eachDoubled, List.flatMap_cons]
  split <;> rfl

/-- A closing quote is not the first one of two. -/
theorem ne_eachDoubled_append {rest : List Char} (ends : rest.head? ≠ some quote) (c : Char) (cs rest' : List Char) :
    quote :: rest ≠ eachDoubled quote (c :: cs) ++ quote :: rest' := by
  intro same
  rw [eachDoubled_cons, List.cons_append] at same
  obtain ⟨rfl, behind⟩ := List.cons_eq_cons.mp same
  rw [if_pos rfl] at behind
  exact ends (congrArg List.head? behind)

end

/-- What stands before the closing quote is told by the text from there on, if every quote is doubled. -/
theorem eachDoubled_append_inj {quote : Char} {rest rest' : List Char} (ends : rest.head? ≠ some quote)
    (ends' : rest'.head? ≠ some quote) : ∀ {cs cs' : List Char},
    eachDoubled quote cs ++ quote :: rest = eachDoubled quote cs' ++ quote :: rest' → cs = cs' ∧ rest = rest'
  | [], [], same => ⟨rfl, List.tail_eq_of_cons_eq same⟩
  | [], c :: cs', same => absurd same (ne_eachDoubled_append ends c cs' rest')
  | c :: cs, [], same => absurd same.symm (ne_eachDoubled_append ends' c cs rest)
  | c :: cs, c' :: cs', same => by
    rw [eachDoubled_cons, eachDoubled_cons, List.cons_append, List.cons_append] at same
    obtain ⟨rfl, behind⟩ := List.cons_eq_cons.mp same
    rw [List.append_assoc, List.append_assoc, List.append_cancel_left_eq] at behind
    obtain ⟨rfl, others⟩ := eachDoubled_append_inj ends ends' behind
    exact ⟨rfl, others⟩

/-! ## Parts -/

/-- Before a point there is no quote. -/
theorem ne_opening {quote : Char} (opening : quote ∈ openings) {rest : List Char} (ends : ∀ c ∈ rest.head?, c = '.') :
    rest.head? ≠ some quote := by
  intro first
  rw [ends quote first] at opening
  exact absurd opening (by decide)

/-- A text that a mark ends is told by what it starts. -/
theorem append_inj_of_not_mem {mark : Char} {rest rest' : List Char} (ends : ∀ c ∈ rest.head?, c = mark)
    (ends' : ∀ c ∈ rest'.head?, c = mark) : ∀ {cs cs' : List Char}, mark ∉ cs → mark ∉ cs' →
    cs ++ rest = cs' ++ rest' → cs = cs' ∧ rest = rest'
  | [], [], _, _, same => ⟨rfl, same⟩
  | [], c :: cs', _, free', same => by
    cases ends c (congrArg List.head? same)
    exact absurd List.mem_cons_self free'
  | c :: cs, [], free, _, same => by
    cases ends' c (congrArg List.head? same.symm)
    exact absurd List.mem_cons_self free
  | c :: cs, c' :: cs', free, free', same => by
    obtain ⟨rfl, behind⟩ := List.cons_eq_cons.mp same
    obtain ⟨rfl, others⟩ := append_inj_of_not_mem ends ends' (List.not_mem_of_not_mem_cons free)
      (List.not_mem_of_not_mem_cons free') behind
    exact ⟨rfl, others⟩

namespace Ident

/-- The part with its characters in upper case. -/
def inUppercase (part : Ident) : Ident :=
  { part with value := uppercase part.value }

/-- Two parts in the same quotes, or in none, that differ at most in case. -/
structure SameCased (part part' : Ident) : Prop where
  quote : part.quote = part'.quote
  opening : ∀ quote ∈ part.quote, quote ∈ openings
  value : uppercase part.value = uppercase part'.value

/-- Whether the end of the part can be seen where it is written: outside quotes it does not start with an opening and
has no point in it, between square brackets it has no closing one, and between other quotes each quote is doubled. -/
def isPlain (part : Ident) : Bool :=
  let cs := part.value.toList
  match part.quote with
  | none => cs.head?.any (· ∉ openings) && '.' ∉ cs
  | some '[' => ']' ∉ cs
  | some quote => quote ∈ openings && doubleQuotes quote '\x00' cs == eachDoubled quote cs

theorem toList_text_bracketed (value : String) :
    (text ⟨value, some '['⟩).toList = '[' :: (value.toList ++ [']']) := by
  simp [text]

theorem toList_text_quoted {quote : Char} (other : quote ≠ '[') (value : String) :
    (text ⟨value, some quote⟩).toList = quote :: (doubleQuotes quote '\x00' value.toList ++ [quote]) := by
  unfold text
  split
  · rename_i bracket
    exact absurd (Option.some.inj bracket) other
  · rename_i same
    cases same
    rw [quoted, String.toList_ofList, List.cons_append]
  · rename_i none
    cases none

/-- Upper-casing a part as it is written upper-cases its characters. -/
theorem uppercase_text {part : Ident} (opening : ∀ quote ∈ part.quote, quote ∈ openings) :
    uppercase part.text = part.inUppercase.text := by
  obtain ⟨value, _ | quote⟩ := part
  · rfl
  · have isMark : IsMark quote := isMark_of_mem_openings quote (opening quote rfl)
    refine String.toList_inj.mp ?_
    rw [toList_uppercase]
    by_cases bracket : quote = '['
    · subst bracket
      rw [toList_text_bracketed, inUppercase, toList_text_bracketed, toList_uppercase, List.flatMap_cons, isMark.kept,
        List.flatMap_append, List.flatMap_singleton, isMark_bracket.kept]
      rfl
    · rw [toList_text_quoted bracket, inUppercase, toList_text_quoted bracket, toList_uppercase, List.flatMap_cons,
        isMark.kept, List.flatMap_append, List.flatMap_singleton, isMark.kept,
        doubleQuotes_flatMap_upperChar isMark value.toList Iff.rfl]
      rfl

/-- A part of which the end can be seen, and how it is written. -/
inductive WrittenAs : Ident → List Char → Prop
  | bare {value : String} {c : Char} {cs : List Char} :
    value.toList = c :: cs → c ∉ openings → '.' ∉ c :: cs → WrittenAs ⟨value, none⟩ (c :: cs)
  | bracketed {value : String} :
    ']' ∉ value.toList → WrittenAs ⟨value, some '['⟩ ('[' :: (value.toList ++ [']']))
  | quoted {value : String} {quote : Char} :
    quote ∈ openings → quote ≠ '[' →
    WrittenAs ⟨value, some quote⟩ (quote :: (eachDoubled quote value.toList ++ [quote]))

theorem writtenAs_of_isPlain {part : Ident} (plain : part.isPlain = true) : part.WrittenAs part.text.toList := by
  obtain ⟨value, quote⟩ := part
  unfold isPlain at plain
  split at plain
  · rename_i bare
    obtain rfl : quote = none := bare
    simp only [Bool.and_eq_true, decide_eq_true_eq, Option.any_eq_true] at plain
    obtain ⟨⟨c, first, outside⟩, unpointed⟩ := plain
    obtain ⟨cs, start⟩ := List.head?_eq_some_iff.mp first
    show WrittenAs _ value.toList
    rw [start] at unpointed ⊢
    exact .bare start outside unpointed
  · rename_i bracket
    obtain rfl : quote = some '[' := bracket
    rw [toList_text_bracketed]
    exact .bracketed (of_decide_eq_true plain)
  · rename_i mark other same
    obtain rfl : quote = some mark := same
    simp only [Bool.and_eq_true, decide_eq_true_eq, beq_iff_eq] at plain
    rw [toList_text_quoted other, plain.2]
    exact .quoted plain.1 other

namespace WrittenAs

variable {part part' : Ident} {text text' : List Char}

/-- The quotes are some that names can be in. -/
theorem opening (written : part.WrittenAs text) : ∀ quote ∈ part.quote, quote ∈ openings := by
  cases written with
  | bare start outside unpointed => exact nofun
  | bracketed unclosed =>
    rintro _ ⟨rfl⟩
    decide
  | quoted opening other =>
    rintro _ ⟨rfl⟩
    exact opening

/-- The first character tells which quotes these are. -/
theorem exists_cons (written : part.WrittenAs text) :
    ∃ c cs, text = c :: cs ∧ part.quote = if c ∈ openings then some c else none := by
  cases written with
  | bare start outside unpointed => exact ⟨_, _, rfl, (if_neg outside).symm⟩
  | bracketed unclosed => exact ⟨_, _, rfl, rfl⟩
  | quoted opening other => exact ⟨_, _, rfl, (if_pos opening).symm⟩

/-- The part is told by what it starts, if that ends behind it or goes on with a point. -/
theorem append_inj (written : part.WrittenAs text) (written' : part'.WrittenAs text') {rest rest' : List Char}
    (ends : ∀ c ∈ rest.head?, c = '.') (ends' : ∀ c ∈ rest'.head?, c = '.')
    (same : text ++ rest = text' ++ rest') : part = part' ∧ rest = rest' := by
  -- the first character tells the form of the part, so only parts of one form are compared behind it
  have quotes : part.quote = part'.quote := by
    obtain ⟨c, cs, rfl, quote⟩ := written.exists_cons
    obtain ⟨c', cs', rfl, quote'⟩ := written'.exists_cons
    rw [quote, quote', List.head_eq_of_cons_eq same]
  suffices told : part.value.toList = part'.value.toList ∧ rest = rest' by
    obtain ⟨value, quote⟩ := part
    obtain rfl : value = part'.value := String.toList_inj.mp told.1
    obtain rfl : quote = part'.quote := quotes
    exact ⟨rfl, told.2⟩
  cases written with
  | bare start outside unpointed =>
    cases written' with
    | bare start' outside' unpointed' =>
      rw [start, start']
      exact append_inj_of_not_mem ends ends' unpointed unpointed' same
    | bracketed unclosed' => cases quotes
    | quoted opening' other' => cases quotes
  | bracketed unclosed =>
    cases written' with
    | bare start' outside' unpointed' => cases quotes
    | bracketed unclosed' =>
      rw [List.cons_append, List.cons_append, List.append_assoc, List.append_assoc] at same
      have told := append_inj_of_not_mem (by simp) (by simp) unclosed unclosed' (List.tail_eq_of_cons_eq same)
      exact ⟨told.1, List.tail_eq_of_cons_eq told.2⟩
    | quoted opening' other' => exact absurd (Option.some.inj quotes.symm) other'
  | quoted opening other =>
    cases written' with
    | bare start' outside' unpointed' => cases quotes
    | bracketed unclosed' => exact absurd (Option.some.inj quotes) other
    | quoted opening' other' =>
      cases quotes
      rw [List.cons_append, List.cons_append, List.append_assoc, List.append_assoc] at same
      exact eachDoubled_append_inj (ne_opening opening ends) (ne_opening opening ends') (List.tail_eq_of_cons_eq same)

end WrittenAs

end Ident

/-! ## Names -/

/-- Whether the ends of all parts can be seen in the name as it is written in upper case. -/
def tellsParts (name : ObjectName) : Bool :=
  (name.map Ident.inUppercase).all Ident.isPlain

/-- Upper-casing a name as it is written upper-cases its parts. -/
theorem uppercase_dotted {name : ObjectName} (opening : ∀ part ∈ name, ∀ quote ∈ part.quote, quote ∈ openings) :
    uppercase (dotted name) = dotted (name.map Ident.inUppercase) := by
  rw [dotted, uppercase_intercalate, dotted, List.map_map, List.map_map]
  exact congrArg ".".intercalate (List.map_congr_left fun part member => Ident.uppercase_text (opening part member))

/-- The parts with a point before each. -/
def pointed (name : ObjectName) : List Char :=
  name.flatMap fun part => '.' :: part.text.toList

theorem pointed_cons (part : Ident) (parts : ObjectName) :
    pointed (part :: parts) = '.' :: (part.text.toList ++ pointed parts) := rfl

theorem point_of_mem_head?_pointed (parts : ObjectName) : ∀ c ∈ (pointed parts).head?, c = '.' := by
  cases parts with
  | nil => exact nofun
  | cons part parts =>
    rintro _ ⟨rfl⟩
    rfl

theorem toList_dotted_cons (part : Ident) (parts : ObjectName) :
    (dotted (part :: parts)).toList = part.text.toList ++ pointed parts := by
  induction parts generalizing part with
  | nil => rw [dotted, List.map_singleton, String.intercalate_singleton, pointed, List.flatMap_nil, List.append_nil]
  | cons next parts ih =>
    rw [dotted, List.map_cons, List.map_cons, String.intercalate_cons_cons, ← List.map_cons, ← dotted,
      String.toList_append, String.toList_append, ih, pointed_cons, List.append_assoc]
    rfl

theorem pointed_injective {name name' : ObjectName} (plain : name.all Ident.isPlain = true)
    (plain' : name'.all Ident.isPlain = true) (same : pointed name = pointed name') : name = name' := by
  induction name generalizing name' with
  | nil =>
    cases name' with
    | nil => rfl
    | cons part' parts' => cases same
  | cons part parts ih =>
    cases name' with
    | nil => cases same
    | cons part' parts' =>
      rw [List.all_cons, Bool.and_eq_true] at plain plain'
      rw [pointed_cons, pointed_cons] at same
      have written := Ident.writtenAs_of_isPlain plain.1
      have written' := Ident.writtenAs_of_isPlain plain'.1
      obtain ⟨rfl, others⟩ := written.append_inj written' (point_of_mem_head?_pointed parts)
        (point_of_mem_head?_pointed parts') (List.tail_eq_of_cons_eq same)
      rw [ih plain.2 plain'.2 others]

theorem dotted_cons_ne_empty {part : Ident} (plain : part.isPlain = true) (parts : ObjectName) :
    dotted (part :: parts) ≠ "" := by
  obtain ⟨c, cs, start, -⟩ := (Ident.writtenAs_of_isPlain plain).exists_cons
  rw [Ne, ← String.toList_eq_nil_iff, toList_dotted_cons, start]
  exact List.cons_ne_nil _ _

/-- Plain parts are told by the name that is written with them. -/
theorem dotted_injective {name name' : ObjectName} (plain : name.all Ident.isPlain = true)
    (plain' : name'.all Ident.isPlain = true) (same : dotted name = dotted name') : name = name' := by
  cases name with
  | nil =>
    cases name' with
    | nil => rfl
    | cons part' parts' =>
      rw [List.all_cons, Bool.and_eq_true] at plain'
      exact absurd same.symm (dotted_cons_ne_empty plain'.1 parts')
  | cons part parts =>
    cases name' with
    | nil =>
      rw [List.all_cons, Bool.and_eq_true] at plain
      exact absurd same (dotted_cons_ne_empty plain.1 parts)
    | cons part' parts' =>
      have pointed : pointed (part :: parts) = pointed (part' :: parts') := by
        rw [pointed_cons, pointed_cons, ← toList_dotted_cons, ← toList_dotted_cons, same]
      exact pointed_injective plain plain' pointed

/-! ## Names in another case -/

theorem Ident.SameCased.inUppercase_eq {part part' : Ident} (same : part.SameCased part') :
    part.inUppercase = part'.inUppercase := by
  rw [inUppercase, inUppercase, same.quote, same.value]

theorem opening_of_sameCased {name name' : ObjectName} (same : List.Forall₂ Ident.SameCased name name') :
    (∀ part ∈ name, ∀ quote ∈ part.quote, quote ∈ openings) ∧
      ∀ part ∈ name', ∀ quote ∈ part.quote, quote ∈ openings := by
  induction same with
  | nil => exact ⟨nofun, nofun⟩
  | cons first _ ih =>
    exact ⟨List.forall_mem_cons.mpr ⟨first.opening, ih.1⟩,
      List.forall_mem_cons.mpr ⟨first.quote ▸ first.opening, ih.2⟩⟩

theorem map_inUppercase_of_sameCased {name name' : ObjectName} (same : List.Forall₂ Ident.SameCased name name') :
    name.map Ident.inUppercase = name'.map Ident.inUppercase := by
  induction same with
  | nil => rfl
  | cons first _ ih => rw [List.map_cons, List.map_cons, first.inUppercase_eq, ih]

theorem sameCased_of_map_inUppercase {name name' : ObjectName}
    (opening : ∀ part ∈ name, ∀ quote ∈ part.quote, quote ∈ openings)
    (same : name.map Ident.inUppercase = name'.map Ident.inUppercase) : List.Forall₂ Ident.SameCased name name' := by
  induction name generalizing name' with
  | nil =>
    rw [List.map_eq_nil_iff.mp same.symm]
    exact .nil
  | cons part parts ih =>
    cases name' with
    | nil => cases same
    | cons part' parts' =>
      obtain ⟨first, others⟩ := List.cons_eq_cons.mp same
      obtain ⟨value, quote⟩ := Ident.mk.inj first
      obtain ⟨opened, opening⟩ := List.forall_mem_cons.mp opening
      exact .cons ⟨quote, opened, value⟩ (ih opening others)

/-- Names of which each part differs at most in case are written alike in upper case. -/
theorem uppercase_dotted_of_sameCased {name name' : ObjectName} (same : List.Forall₂ Ident.SameCased name name') :
    uppercase (dotted name) = uppercase (dotted name') := by
  obtain ⟨opening, opening'⟩ := opening_of_sameCased same
  rw [uppercase_dotted opening, uppercase_dotted opening', map_inUppercase_of_sameCased same]

theorem tellsParts_eq_of_sameCased {name name' : ObjectName} (same : List.Forall₂ Ident.SameCased name name') :
    tellsParts name = tellsParts name' := by
  rw [tellsParts, tellsParts, map_inUppercase_of_sameCased same]

theorem opening_of_tellsParts {name : ObjectName} (tells : tellsParts name = true) :
    ∀ part ∈ name, ∀ quote ∈ part.quote, quote ∈ openings := by
  intro part member
  have plain := List.all_eq_true.mp tells part.inUppercase (List.mem_map_of_mem member)
  have opening := (Ident.writtenAs_of_isPlain plain).opening
  exact opening

/-- Names that tell their parts are written alike in upper case only if each part differs at most in case. -/
theorem sameCased_of_uppercase_dotted {name name' : ObjectName} (tells : tellsParts name = true)
    (tells' : tellsParts name' = true) (same : uppercase (dotted name) = uppercase (dotted name')) :
    List.Forall₂ Ident.SameCased name name' := by
  have opening := opening_of_tellsParts tells
  rw [uppercase_dotted opening, uppercase_dotted (opening_of_tellsParts tells')] at same
  exact sameCased_of_map_inUppercase opening (dotted_injective tells tells' same)

end VideoPlan.Sql
