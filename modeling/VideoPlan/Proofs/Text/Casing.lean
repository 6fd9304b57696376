import VideoPlan.Proofs.Entries
import VideoPlan.Text.Blank
import VideoPlan.Text.Casing

/-!
# What a change of case leaves

Lower-casing puts at least one character in place of each character, so it leaves no text empty that was
not empty before. What it puts there is in lower case already and no blank (`isLowered_or_of_mem_lowerChar`), so
lower-casing twice is lower-casing once (`lowercase_lowercase`). Which form of the sigma stands at a place depends on
the letters around it only, up to the next character that is neither cased nor ignored: texts with such a character
between them are lower-cased apart (`lowerAfter_append_cons`).

Upper-casing goes character by character. A mark, such as a quote or a point, stays as it is and is put in place of
no other character (`mem_upperChar_iff`).
-/

namespace VideoPlan.Text

theorem lowerChar_ne_nil (c : Char) : lowerChar c ≠ [] := by
  unfold lowerChar
  split
  · simp
  · split
    · simp
    · split <;> simp

theorem lowerAfter_eq_nil {before cs : List Char} : lowerAfter before cs = [] ↔ cs = [] := by
  cases cs with
  | nil => exact ⟨fun _ => rfl, fun _ => rfl⟩
  | cons c rest =>
    unfold lowerAfter
    rw [List.append_eq_nil_iff]
    constructor
    · rintro ⟨first, -⟩
      split at first
      · cases first
      · exact absurd first (lowerChar_ne_nil c)
    · intro empty
      cases empty

/-- Only the empty text is empty in lower case. -/
theorem lowercase_eq_empty {s : String} : lowercase s = "" ↔ s = "" := by
  rw [← String.toList_eq_nil_iff, ← String.toList_eq_nil_iff, lowercase, String.toList_ofList]
  exact lowerAfter_eq_nil

/-! ## Characters in lower case -/

/-- Lower-casing leaves the character alone, wherever it stands. -/
structure Settled (c : Char) : Prop where
  kept : lowerChar c = [c]
  notSigma : c ≠ 'Σ'

instance (c : Char) : Decidable (Settled c) :=
  decidable_of_iff (lowerChar c = [c] ∧ c ≠ 'Σ')
    ⟨fun ⟨kept, notSigma⟩ => ⟨kept, notSigma⟩, fun ⟨kept, notSigma⟩ => ⟨kept, notSigma⟩⟩

/-- A lower-case letter, or a mark that belongs to one. -/
structure IsLowered (c : Char) : Prop extends Settled c where
  notBlank : isBlank c = false
  letter : 97 ≤ c.toNat

instance (c : Char) : Decidable (IsLowered c) :=
  decidable_of_iff (Settled c ∧ isBlank c = false ∧ 97 ≤ c.toNat)
    ⟨fun ⟨settled, notBlank, letter⟩ => ⟨settled, notBlank, letter⟩,
      fun ⟨settled, notBlank, letter⟩ => ⟨settled, notBlank, letter⟩⟩

namespace CaseRun

theorem map?_eq_some_iff {run : CaseRun} {n image : Nat} :
    run.map? n = some image ↔ run.first ≤ n ∧ n ≤ run.last ∧ (n - run.first) % run.step = 0 ∧
      image = run.target + (n - run.first) := by
  unfold map?
  split
  · rename_i inside
    simp only [Bool.and_eq_true, decide_eq_true_eq] at inside
    simp [inside, eq_comm]
  · rename_i outside
    simp only [Bool.and_eq_true, decide_eq_true_eq, not_and] at outside
    constructor
    · nofun
    · rintro ⟨first, last, step, -⟩
      exact absurd step (outside ⟨first, last⟩)

/-- No character of the other run is an image of this one: the images lie before it, behind it, or between its
characters. -/
def misses (run other : CaseRun) : Bool :=
  other.last.blt run.target || (run.target + (run.last - run.first)).blt other.first ||
    ((run.step.beq 2 || run.first.beq run.last) && other.step.beq 2 && ((run.target + other.first) % 2).beq 1)

theorem map?_of_misses {run other : CaseRun} (missed : run.misses other = true) {n image : Nat}
    (mapped : run.map? n = some image) : other.map? image = none := by
  obtain ⟨first, last, step, rfl⟩ := map?_eq_some_iff.mp mapped
  rw [Option.eq_none_iff_forall_ne_some]
  intro again mapped'
  obtain ⟨first', last', step', -⟩ := map?_eq_some_iff.mp mapped'
  simp only [misses, Bool.or_eq_true, Bool.and_eq_true, Nat.blt_eq, Nat.beq_eq] at missed
  rcases missed with (before | behind) | ⟨⟨even | single, even'⟩, odd⟩
  · omega
  · omega
  · rw [even] at step
    rw [even'] at step'
    omega
  · rw [even'] at step'
    omega

/-- Stretches of letters and marks without blanks and capital sigma. -/
def clearRanges : List (Nat × Nat) :=
  [(97, 132), (161, 303), (305, 930), (932, 5759), (5761, 8191), (8288, 12287), (12289, 55295), (57344, 1114111)]

/-- The images of the run lie in a clear stretch, and none of them is a character of any run. -/
def isSettled (run : CaseRun) : Bool :=
  (clearRanges.any fun range => range.1 ≤ run.target && run.target + (run.last - run.first) ≤ range.2) &&
    lowerRuns.all run.misses

theorem isSettled_of_mem : ∀ run ∈ lowerRuns, run.isSettled = true := by
  decide +kernel

end CaseRun

/-- No capital letter of ASCII comes behind the small ones. -/
theorem toLower_of_le {c : Char} (letter : 97 ≤ c.toNat) : c.toLower = c := by
  unfold Char.toLower
  refine dif_neg fun capital => ?_
  have last : c.toNat ≤ 90 := UInt32.le_iff_toNat_le.mp capital.2
  omega

theorem toNat_ofNat_of_isValidChar {n : Nat} (valid : n.isValidChar) : (Char.ofNat n).toNat = n := by
  rw [Char.ofNat, dif_pos valid]
  rfl

theorem isLowered_ofNat {n : Nat} (clear : ∃ range ∈ CaseRun.clearRanges, range.1 ≤ n ∧ n ≤ range.2)
    (missed : ∀ run ∈ lowerRuns, run.map? n = none) : IsLowered (Char.ofNat n) := by
  have bounds : (97 ≤ n ∧ n ≤ 132) ∨ (161 ≤ n ∧ n ≤ 303) ∨ (305 ≤ n ∧ n ≤ 930) ∨ (932 ≤ n ∧ n ≤ 5759) ∨
      (5761 ≤ n ∧ n ≤ 8191) ∨ (8288 ≤ n ∧ n ≤ 12287) ∨ (12289 ≤ n ∧ n ≤ 55295) ∨ (57344 ≤ n ∧ n ≤ 1114111) := by
    simpa [CaseRun.clearRanges] using clear
  have valid : n.isValidChar := by
    unfold Nat.isValidChar
    omega
  have code := toNat_ofNat_of_isValidChar valid
  refine ⟨⟨?_, ?_⟩, ?_, ?_⟩
  · have none : lowerRuns.findSome? (·.map? n) = none := List.findSome?_eq_none_iff.mpr missed
    unfold lowerChar
    rw [code, none, if_neg (show n ≠ 304 by omega)]
    split
    · rw [toLower_of_le (by omega)]
    · rfl
  · intro sigma
    rw [sigma] at code
    have : n = 931 := code.symm
    omega
  · unfold isBlank
    simp only [code, Bool.or_eq_false_iff, Bool.and_eq_false_iff, decide_eq_false_iff_not]
    omega
  · rw [code]
    omega

theorem isLowered_of_map? {run : CaseRun} (member : run ∈ lowerRuns) {n image : Nat}
    (mapped : run.map? n = some image) : IsLowered (Char.ofNat image) := by
  have settled := CaseRun.isSettled_of_mem run member
  rw [CaseRun.isSettled, Bool.and_eq_true, List.any_eq_true, List.all_eq_true] at settled
  obtain ⟨⟨range, inClear, clear⟩, missed⟩ := settled
  refine isLowered_ofNat ⟨range, inClear, ?_⟩ fun other member' => CaseRun.map?_of_misses (missed other member') mapped
  obtain ⟨first, last, -, rfl⟩ := CaseRun.map?_eq_some_iff.mp mapped
  rw [Bool.and_eq_true, decide_eq_true_eq, decide_eq_true_eq] at clear
  omega

theorem isLowered_or_of_ascii : ∀ n ∈ List.range 128,
    IsLowered (Char.ofNat n).toLower ∨ (Char.ofNat n).toLower = Char.ofNat n := by
  decide +kernel

theorem isLowered_of_dotted : ∀ c ∈ ['i', Char.ofNat 775], IsLowered c :=
  List.forall_mem_cons.mpr ⟨by decide +kernel, List.forall_mem_singleton.mpr (by decide +kernel)⟩

theorem isLowered_lowerSigma (before after : List Char) : IsLowered (lowerSigma before after) := by
  unfold lowerSigma
  split <;> decide +kernel

/-- What stands in lower case for a character is in lower case, or it is the character itself. -/
theorem isLowered_or_of_mem_lowerChar {c d : Char} (member : d ∈ lowerChar c) :
    IsLowered d ∨ d = c ∧ lowerChar c = [c] := by
  unfold lowerChar at member ⊢
  split at member
  · rename_i ascii
    obtain rfl := List.mem_singleton.mp member
    have small := isLowered_or_of_ascii c.toNat (List.mem_range.mpr ascii)
    rw [Char.ofNat_toNat] at small
    refine small.imp id fun kept => ⟨kept, ?_⟩
    rw [if_pos ascii, kept]
  · rename_i wide
    rw [if_neg wide]
    split at member
    · exact .inl (isLowered_of_dotted d member)
    · rename_i plain
      rw [if_neg plain]
      split at member
      · rename_i image mapped
        obtain rfl := List.mem_singleton.mp member
        obtain ⟨run, known, mapped⟩ := List.exists_of_findSome?_eq_some mapped
        exact .inl (isLowered_of_map? known mapped)
      · exact .inr ⟨List.mem_singleton.mp member, rfl⟩

/-! ## Texts in lower case -/

/-- What stands in lower case for a character between two texts, of which the first one is reversed. -/
def lowerBetween (before : List Char) (c : Char) (rest : List Char) : List Char :=
  if c = 'Σ' then [lowerSigma before rest] else lowerChar c

theorem lowerAfter_cons (before : List Char) (c : Char) (rest : List Char) :
    lowerAfter before (c :: rest) = lowerBetween before c rest ++ lowerAfter (c :: before) rest := rfl

theorem Settled.lowerBetween {c : Char} (settled : Settled c) (before rest : List Char) :
    lowerBetween before c rest = [c] := by
  rw [Text.lowerBetween, if_neg settled.notSigma, settled.kept]

theorem isLowered_or_of_mem_lowerBetween {before rest : List Char} {c d : Char}
    (member : d ∈ lowerBetween before c rest) : IsLowered d ∨ d = c ∧ Settled c := by
  unfold lowerBetween at member
  split at member
  · rw [List.mem_singleton.mp member]
    exact .inl (isLowered_lowerSigma before rest)
  · rename_i notSigma
    exact (isLowered_or_of_mem_lowerChar member).imp id fun ⟨same, kept⟩ => ⟨same, kept, notSigma⟩

theorem isLowered_or_of_mem_lowerAfter {before cs : List Char} {d : Char} (member : d ∈ lowerAfter before cs) :
    IsLowered d ∨ d ∈ cs ∧ Settled d := by
  induction cs generalizing before with
  | nil => cases member
  | cons c rest ih =>
    rcases List.mem_append.mp member with first | others
    · refine (isLowered_or_of_mem_lowerBetween first).imp id ?_
      rintro ⟨rfl, settled⟩
      exact ⟨List.mem_cons_self, settled⟩
    · exact (ih others).imp id fun ⟨member, settled⟩ => ⟨List.mem_cons_of_mem c member, settled⟩

theorem lowerAfter_of_settled {before cs : List Char} (settled : ∀ c ∈ cs, Settled c) : lowerAfter before cs = cs := by
  induction cs generalizing before with
  | nil => rfl
  | cons c rest ih =>
    obtain ⟨first, others⟩ := List.forall_mem_cons.mp settled
    rw [lowerAfter_cons, first.lowerBetween, ih others]
    rfl

/-- A text in lower case stays as it is. -/
theorem lowercase_lowercase (s : String) : lowercase (lowercase s) = lowercase s := by
  have settled : ∀ d ∈ lowerAfter [] s.toList, Settled d := by
    intro d member
    exact (isLowered_or_of_mem_lowerAfter member).elim (·.toSettled) (·.2)
  unfold lowercase
  rw [String.toList_ofList, lowerAfter_of_settled settled]

/-- The last character in lower case stands for the last character. -/
theorem getLast?_lowerAfter {before cs : List Char} :
    ∀ d ∈ (lowerAfter before cs).getLast?, IsLowered d ∨ d ∈ cs.getLast? := by
  induction cs generalizing before with
  | nil => exact nofun
  | cons c rest ih =>
    intro d last
    rw [lowerAfter_cons] at last
    cases rest with
    | nil =>
      rw [lowerAfter, List.append_nil] at last
      refine (isLowered_or_of_mem_lowerBetween (List.mem_of_getLast? last)).imp id ?_
      rintro ⟨rfl, -⟩
      rfl
    | cons next rest =>
      have more : (lowerAfter (c :: before) (next :: rest)).getLast?.isSome :=
        List.getLast?_isSome.mpr (mt lowerAfter_eq_nil.mp (List.cons_ne_nil next rest))
      rw [List.getLast?_append, Option.or_of_isSome more] at last
      rw [List.getLast?_cons_cons]
      exact ih d last

/-! ## Characters between texts -/

/-- Lower-casing leaves the character alone, and no sigma beside it belongs to a word that goes on behind it. -/
structure Parting (c : Char) : Prop extends Settled c where
  notIgnorable : isCaseIgnorable c = false
  notCased : isCased c = false

instance (c : Char) : Decidable (Parting c) :=
  decidable_of_iff (Settled c ∧ isCaseIgnorable c = false ∧ isCased c = false)
    ⟨fun ⟨settled, notIgnorable, notCased⟩ => ⟨settled, notIgnorable, notCased⟩,
      fun ⟨settled, notIgnorable, notCased⟩ => ⟨settled, notIgnorable, notCased⟩⟩

theorem startsCased_cons (c : Char) (cs : List Char) :
    startsCased (c :: cs) = if isCaseIgnorable c then startsCased cs else isCased c := by
  unfold startsCased
  rw [List.dropWhile_cons]
  cases isCaseIgnorable c <;> rfl

theorem Parting.startsCased {c : Char} (parting : Parting c) (cs : List Char) : startsCased (c :: cs) = false := by
  rw [startsCased_cons, parting.notIgnorable]
  exact parting.notCased

theorem startsCased_append {rest : List Char} (ends : startsCased rest = false) (cs : List Char) :
    startsCased (cs ++ rest) = startsCased cs := by
  induction cs with
  | nil => exact ends
  | cons c cs ih => rw [List.cons_append, startsCased_cons, startsCased_cons, ih]

/-- Of the text before it lower-casing depends on one thing only. -/
theorem lowerAfter_congr {before before' : List Char} (same : startsCased before = startsCased before')
    (cs : List Char) : lowerAfter before cs = lowerAfter before' cs := by
  induction cs generalizing before before' with
  | nil => rfl
  | cons c rest ih =>
    have behind : startsCased (c :: before) = startsCased (c :: before') := by
      rw [startsCased_cons, startsCased_cons, same]
    rw [lowerAfter_cons, lowerAfter_cons, lowerBetween, lowerBetween, lowerSigma, lowerSigma, same, ih behind]

/-- Texts with a parting character between them are lower-cased apart. -/
theorem lowerAfter_append_cons {c : Char} (parting : Parting c) (before cs rest : List Char) :
    lowerAfter before (cs ++ c :: rest) = lowerAfter before cs ++ c :: lowerAfter [] rest := by
  induction cs generalizing before with
  | nil =>
    rw [List.nil_append, lowerAfter_cons, parting.toSettled.lowerBetween]
    exact congrArg (c :: ·) (lowerAfter_congr (parting.startsCased before) rest)
  | cons first cs ih =>
    have place : lowerBetween before first (cs ++ c :: rest) = lowerBetween before first cs := by
      rw [lowerBetween, lowerBetween, lowerSigma, lowerSigma, startsCased_append (parting.startsCased rest)]
    rw [List.cons_append, lowerAfter_cons, lowerAfter_cons, place, ih, List.append_assoc]

/-- The code points of blanks. -/
def blankPoints : List Nat :=
  [9, 10, 11, 12, 13, 32, 0x85, 0xA0, 0x1680, 0x2000, 0x2001, 0x2002, 0x2003, 0x2004, 0x2005, 0x2006, 0x2007,
    0x2008, 0x2009, 0x200A, 0x2028, 0x2029, 0x202F, 0x205F, 0x3000]

theorem parting_of_mem_blankPoints : ∀ n ∈ blankPoints, Parting (Char.ofNat n) := by
  decide +kernel

/-- Blanks part texts. -/
theorem parting_of_isBlank {c : Char} (blank : isBlank c = true) : Parting c := by
  have point : c.toNat ∈ blankPoints := by
    simp only [isBlank, Bool.or_eq_true, Bool.and_eq_true, decide_eq_true_eq] at blank
    simp only [blankPoints, List.mem_cons, List.not_mem_nil]
    omega
  rw [← Char.ofNat_toNat c]
  exact parting_of_mem_blankPoints _ point

/-! ## Characters in upper case -/

/-- A capital letter of ASCII, or a character beyond ASCII. -/
def IsRaised (c : Char) : Prop :=
  65 ≤ c.toNat ∧ c.toNat ≤ 90 ∨ 128 ≤ c.toNat

instance (c : Char) : Decidable (IsRaised c) :=
  inferInstanceAs (Decidable (_ ∨ _))

/-- Whether the code points from the first to the last one are of such characters. -/
def raises (first last : Nat) : Bool :=
  [(65, 90), (128, 55295), (57344, 1114111)].any fun range => range.1 ≤ first && last ≤ range.2

theorem isRaised_ofNat {first last n : Nat} (raised : raises first last = true) (above : first ≤ n)
    (below : n ≤ last) : IsRaised (Char.ofNat n) := by
  have bounds : (65 ≤ n ∧ n ≤ 90) ∨ (128 ≤ n ∧ n ≤ 55295) ∨ (57344 ≤ n ∧ n ≤ 1114111) := by
    simp only [raises, List.any_cons, List.any_nil, Bool.or_false, Bool.or_eq_true, Bool.and_eq_true,
      decide_eq_true_eq] at raised
    omega
  have valid : n.isValidChar := by
    unfold Nat.isValidChar
    omega
  have code := toNat_ofNat_of_isValidChar valid
  unfold IsRaised
  omega

theorem raises_of_mem_upperRuns :
    ∀ run ∈ upperRuns, raises run.target (run.target + (run.last - run.first)) = true := by
  decide +kernel

theorem raises_of_mem_upperExpansions :
    ∀ entry ∈ upperExpansions, entry.2 ≠ [] ∧ ∀ n ∈ entry.2, raises n n = true := by
  decide +kernel

theorem isRaised_or_of_ascii : ∀ n ∈ List.range 128,
    IsRaised (Char.ofNat n).toUpper ∨ (Char.ofNat n).toUpper = Char.ofNat n := by
  decide +kernel

/-- There is an upper case of every character. -/
theorem upperChar_ne_nil (c : Char) : upperChar c ≠ [] := by
  unfold upperChar
  split
  · simp
  · split
    · rename_i expansion found
      have known := raises_of_mem_upperExpansions _ (mem_of_lookup found)
      exact fun none => known.1 (List.map_eq_nil_iff.mp none)
    · split <;> simp

/-- What stands in upper case for a character is raised, or it is the character itself. -/
theorem isRaised_or_of_mem_upperChar {c d : Char} (member : d ∈ upperChar c) :
    IsRaised d ∨ d = c ∧ upperChar c = [c] := by
  unfold upperChar at member ⊢
  split at member
  · rename_i ascii
    obtain rfl := List.mem_singleton.mp member
    have small := isRaised_or_of_ascii c.toNat (List.mem_range.mpr ascii)
    rw [Char.ofNat_toNat] at small
    refine small.imp id fun kept => ⟨kept, ?_⟩
    rw [if_pos ascii, kept]
  · rename_i wide
    rw [if_neg wide]
    split at member
    · rename_i expansion found
      obtain ⟨n, inside, rfl⟩ := List.mem_map.mp member
      have known := raises_of_mem_upperExpansions _ (mem_of_lookup found)
      exact .inl (isRaised_ofNat (known.2 n inside) (Nat.le_refl n) (Nat.le_refl n))
    · split at member
      · rename_i image mapped
        obtain rfl := List.mem_singleton.mp member
        obtain ⟨run, known, mapped⟩ := List.exists_of_findSome?_eq_some mapped
        obtain ⟨first, last, -, rfl⟩ := CaseRun.map?_eq_some_iff.mp mapped
        exact .inl (isRaised_ofNat (raises_of_mem_upperRuns run known) (by omega) (by omega))
      · exact .inr ⟨List.mem_singleton.mp member, rfl⟩

/-- A character that upper-casing leaves as it is and puts nowhere else. -/
structure IsMark (c : Char) : Prop where
  kept : upperChar c = [c]
  notRaised : ¬ IsRaised c

instance (c : Char) : Decidable (IsMark c) :=
  decidable_of_iff (upperChar c = [c] ∧ ¬ IsRaised c)
    ⟨fun ⟨kept, notRaised⟩ => ⟨kept, notRaised⟩, fun ⟨kept, notRaised⟩ => ⟨kept, notRaised⟩⟩

/-- A mark stands in upper case where it stood before. -/
theorem mem_upperChar_iff {c mark : Char} (isMark : IsMark mark) : mark ∈ upperChar c ↔ c = mark := by
  constructor
  · intro member
    rcases isRaised_or_of_mem_upperChar member with raised | ⟨same, -⟩
    · exact absurd raised isMark.notRaised
    · exact same.symm
  · rintro rfl
    rw [isMark.kept]
    exact List.mem_singleton_self c

/-! ## Texts in upper case -/

theorem toList_uppercase (s : String) : (uppercase s).toList = s.toList.flatMap upperChar :=
  String.toList_ofList

theorem uppercase_append (s t : String) : uppercase (s ++ t) = uppercase s ++ uppercase t := by
  refine String.toList_inj.mp ?_
  rw [String.toList_append, toList_uppercase, toList_uppercase, toList_uppercase, String.toList_append,
    List.flatMap_append]

theorem uppercase_intercalate (separator : String) (texts : List String) :
    uppercase (separator.intercalate texts) = (uppercase separator).intercalate (texts.map uppercase) := by
  induction texts with
  | nil => rfl
  | cons text texts ih =>
    cases texts with
    | nil => rw [List.map_singleton, String.intercalate_singleton, String.intercalate_singleton]
    | cons next texts =>
      rw [List.map_cons, List.map_cons, String.intercalate_cons_cons, String.intercalate_cons_cons, uppercase_append,
        uppercase_append, ih, List.map_cons]

end VideoPlan.Text
