/-!
# Marks and names in texts

A text can be read off its start if the marks that may stand there differ: of differing marks at most one is found
(`firstMark?_append`, `firstMark?_eq_none`). A name ends at the first blank, comma or parenthesis that is not in
quotes (`spanName_append`).
-/

namespace VideoPlan.Text

/-! ## Marks -/

/-- The first of the marks that the text starts with, by what it stands for, and the text behind it. -/
def firstMark? : List (String × α) → List Char → Option (α × List Char)
  | [], _ => none
  | (mark, x) :: marks, cs =>
    if mark.toList <+: cs then some (x, cs.drop mark.toList.length) else firstMark? marks cs

/-- Neither of the marks starts with the other. -/
def Differ (mark mark' : String) : Prop :=
  ¬ mark.toList <+: mark'.toList ∧ ¬ mark'.toList <+: mark.toList

instance (mark mark' : String) : Decidable (Differ mark mark') :=
  inferInstanceAs (Decidable (_ ∧ _))

theorem Differ.not_prefix_append {mark mark' : String} (differ : Differ mark mark') (rest : List Char) :
    ¬ mark.toList <+: mark'.toList ++ rest := by
  intro starts
  rcases List.prefix_or_prefix_of_prefix starts (List.prefix_append mark'.toList rest) with inner | inner
  · exact differ.1 inner
  · exact differ.2 inner

variable {marks : List (String × α)} {mark : String}

/-- Of differing marks the one at the start of a text is found. -/
theorem firstMark?_append (differing : marks.Pairwise fun entry entry' => Differ entry.1 entry'.1) {x : α}
    (member : (mark, x) ∈ marks) (rest : List Char) : firstMark? marks (mark.toList ++ rest) = some (x, rest) := by
  induction marks with
  | nil => cases member
  | cons entry marks ih =>
    obtain ⟨first, others⟩ := List.pairwise_cons.mp differing
    rcases List.mem_cons.mp member with rfl | member
    · rw [firstMark?, if_pos (List.prefix_append _ _), List.drop_left]
    · rw [firstMark?, if_neg ((first _ member).not_prefix_append rest)]
      exact ih others member

/-- Before another mark none is found. -/
theorem firstMark?_eq_none (differs : ∀ entry ∈ marks, Differ entry.1 mark) (rest : List Char) :
    firstMark? marks (mark.toList ++ rest) = none := by
  induction marks with
  | nil => rfl
  | cons entry marks ih =>
    obtain ⟨first, others⟩ := List.forall_mem_cons.mp differs
    rw [firstMark?, if_neg (first.not_prefix_append rest)]
    exact ih others

/-! ## Names -/

/-- Whether a name ends before `c`, outside quotes. -/
def endsName (c : Char) : Bool :=
  c = ' ' || c = ',' || c = '(' || c = ')'

/-- The quote in which the text behind `c` stands, if `c` stands in `quote`. -/
def quoteBehind (quote : Option Char) (c : Char) : Option Char :=
  match quote with
  | some quote => if c = quote then none else some quote
  | none => if c = '"' || c = '`' then some c else none

/-- The name that a text starts with, which goes on in `quote`, and the text behind it. -/
def spanName (quote : Option Char) : List Char → List Char × List Char
  | [] => ([], [])
  | c :: cs =>
    if quote = none ∧ endsName c = true then ([], c :: cs)
    else ((c :: (spanName (quoteBehind quote c) cs).1), (spanName (quoteBehind quote c) cs).2)

/-- Whether a text is a name to its end, with its quotes closed. -/
def isName (quote : Option Char) : List Char → Bool
  | [] => quote = none
  | c :: cs => !(quote = none && endsName c) && isName (quoteBehind quote c) cs

/-- A name is found before anything that ends it. -/
theorem spanName_append {name : List Char} {quote : Option Char} (named : isName quote name = true)
    {rest : List Char} (ends : ∀ c ∈ rest.head?, endsName c = true) :
    spanName quote (name ++ rest) = (name, rest) := by
  induction name generalizing quote with
  | nil =>
    obtain rfl := of_decide_eq_true named
    cases rest with
    | nil => rfl
    | cons c rest => exact if_pos ⟨rfl, ends c rfl⟩
  | cons c name ih =>
    simp only [isName, Bool.and_eq_true, Bool.not_eq_true', Bool.and_eq_false_iff, decide_eq_false_iff_not] at named
    obtain ⟨inside, named⟩ := named
    have goesOn : ¬ (quote = none ∧ endsName c = true) := by
      rintro ⟨rfl, ending⟩
      simp [ending] at inside
    rw [List.cons_append, spanName, if_neg goesOn, ih named]

/-- Characters that neither end a name nor open a quote are a name. -/
theorem isName_of_plain {cs : List Char} (plain : ∀ c ∈ cs, endsName c = false ∧ quoteBehind none c = none) :
    isName none cs = true := by
  induction cs with
  | nil => rfl
  | cons c cs ih =>
    obtain ⟨⟨inside, outside⟩, others⟩ := List.forall_mem_cons.mp plain
    rw [isName, inside, outside, ih others]
    rfl

end VideoPlan.Text
