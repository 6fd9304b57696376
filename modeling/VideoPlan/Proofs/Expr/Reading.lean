import VideoPlan.Proofs.Expr.Reader
import VideoPlan.Proofs.Expr.Regrouped

/-!
# Texts of expressions are read back

The text of an expression says what it is up to the grouping of its tests, if it is plain and over one scope. To see
this the text is read back. Behind the upper bound of a BETWEEN further tests are read as tests of it all, so what is
read is the regrouped expression (`reads_text`).

Main statement: `text_eq_iff_regrouped`.
-/

namespace VideoPlan.Expr

open Text

/-! ## Texts by their marks -/

/-- The text of expressions behind one, up to a closing parenthesis. -/
def moreText : List Expr → String
  | [] => ")"
  | expr :: exprs => ", " ++ expr.text ++ moreText exprs

/-- The text of expressions up to a closing parenthesis. -/
def itemsText : List Expr → String
  | [] => ")"
  | expr :: exprs => expr.text ++ moreText exprs

theorem commaList_texts (exprs : List Expr) : commaList (texts exprs) ++ ")" = itemsText exprs := by
  cases exprs with
  | nil => rfl
  | cons expr exprs =>
    induction exprs generalizing expr with
    | nil => rfl
    | cons next exprs ih =>
      have listed : commaList (texts (expr :: next :: exprs)) =
          expr.text ++ ", " ++ commaList (texts (next :: exprs)) := by
        apply String.toList_inj.mp
        simp [commaList, texts, String.toList_intercalate]
      rw [listed, String.append_assoc, ih, itemsText, itemsText, moreText, String.append_assoc, String.append_assoc]

theorem toList_text (value : String) (rest : List Char) :
    (Expr.literal (.text value)).text.toList ++ rest = '\'' :: (value.toList ++ '\'' :: rest) := by
  simp [Expr.text, Scalar.shown]

theorem toList_binary (op : BinaryOp) (left right : Expr) (rest : List Char) :
    (Expr.binary op left right).text.toList ++ rest =
      '(' :: (left.text.toList ++ ((operationMark op).toList ++ (right.text.toList ++ (")".toList ++ rest)))) := by
  simp [Expr.text, operationMark]

/-- What stands around the operand of an operation. -/
def unaryMarks : UnaryOp → String × String
  | .not => ("NOT ", ")")
  | .negate => ("- ", ")")
  | .isNull => ("", " IS NULL)")
  | .isNotNull => ("", " IS NOT NULL)")

theorem toList_unary (op : UnaryOp) (operand : Expr) (rest : List Char) :
    (Expr.unary op operand).text.toList ++ rest =
      '(' :: ((unaryMarks op).1.toList ++ (operand.text.toList ++ ((unaryMarks op).2.toList ++ rest))) := by
  cases op <;> simp [Expr.text, unaryText, unaryMarks]

theorem toList_call (name : String) (args : List Expr) (rest : List Char) :
    (Expr.call name args).text.toList ++ rest = name.toList ++ '(' :: ((itemsText args).toList ++ rest) := by
  rw [← commaList_texts]
  simp [Expr.text]

theorem toList_inList (negated : Bool) (operand : Expr) (list : List Expr) (rest : List Char) :
    (Expr.inList negated operand list).text.toList ++ rest =
      operand.text.toList ++ ((inMark negated).toList ++ ((itemsText list).toList ++ rest)) := by
  rw [← commaList_texts]
  simp [Expr.text, inMark]

theorem toList_between (negated : Bool) (operand low high : Expr) (rest : List Char) :
    (Expr.between negated operand low high).text.toList ++ rest =
      operand.text.toList ++ ((betweenMark negated).toList ++
        (low.text.toList ++ ((operationMark .and).toList ++ (high.text.toList ++ rest)))) := by
  simp [Expr.text, betweenMark, operationMark, BinaryOp.symbol]

/-! ## Openings -/

/-- A text does not start like an operation before an operand, nor like the end of a list. -/
structure OpensOperand (cs : List Char) : Prop where
  nonempty : cs ≠ []
  noOperation : openingOperation? cs = none
  noEnd : ∀ rest, cs ≠ ')' :: rest

/-- A parenthesis without a blank before it opens no operation. -/
theorem opensOperand_of_paren {cs word rest : List Char} (spans : spanName none cs = (word, '(' :: rest)) :
    OpensOperand cs := by
  refine ⟨fun none => ?_, by rw [openingOperation?, spans]; rfl, fun rest' ends => ?_⟩
  all_goals
    subst cs
    cases spans

theorem opensOperand_of_word {cs word rest : List Char} (spans : spanName none cs = (word, rest))
    (nonempty : word ≠ []) (noNot : word ≠ "NOT".toList) (noMinus : word ≠ "-".toList) : OpensOperand cs := by
  refine ⟨fun none => ?_, ?_, fun rest' ends => ?_⟩
  · subst cs
    cases spans
    exact nonempty rfl
  · rw [openingOperation?, spans]
    split
    · rename_i same
      obtain ⟨rfl, -⟩ := Prod.mk.inj same
      rw [if_neg noNot, if_neg noMinus]
    · rfl
  · subst cs
    cases spans
    exact nonempty rfl

/-- The text of a plain expression starts with an operand, by induction on what is tested first. -/
theorem opensOperand_text {expr : Expr} (plain : expr.Plain) {rest : List Char} (behind : Behind rest) :
    OpensOperand (expr.text.toList ++ rest) := by
  induction plain generalizing rest with
  | column named =>
    refine opensOperand_of_word (named.word.spanName behind.ends) named.word.nonempty ?_ ?_
    · exact fun same => named.noOperation.1 (String.toList_inj.mp same)
    · exact fun same => named.noOperation.2 (String.toList_inj.mp same)
  | integer value =>
    have read := readInteger?_toString value
    refine opensOperand_of_word ((isWord_integer value).spanName behind.ends) (isWord_integer value).nonempty ?_ ?_
    all_goals
      intro same
      rw [same] at read
      cases read
  | text =>
    rw [toList_text]
    exact opensOperand_of_word rfl (List.cons_ne_nil _ _) nofun nofun
  | binary op =>
    rw [toList_binary]
    exact opensOperand_of_paren rfl
  | unary op =>
    rw [toList_unary]
    exact opensOperand_of_paren rfl
  | call named =>
    rw [toList_call]
    exact opensOperand_of_paren (named.spanName fun c member => by cases member; rfl)
  | inList negated _ _ ih =>
    rw [toList_inList]
    exact ih (behind_inMark negated _)
  | between negated _ _ _ ih =>
    rw [toList_between]
    exact ih (behind_betweenMark negated _)

theorem Plain.text_ne_nil {expr : Expr} (plain : expr.Plain) : expr.text.toList ≠ [] := by
  have opens := opensOperand_text plain stops_nil.behind
  rw [List.append_nil] at opens
  exact opens.nonempty

/-! ## Heads and tests -/

section

variable (scope : Scope)

/-- What is tested first is read from the text of the expression. Behind that its tests are read, and whatever they
then are tests of, they are those of the regrouped expression. -/
def Reads (expr : Expr) : Prop :=
  ∀ rest, Behind rest → ∃ head tests, readHead scope (expr.text.toList ++ rest) = some (head, tests) ∧
    tests.length < (expr.text.toList ++ rest).length ∧
    ∀ f : Expr → Expr, readTests scope (f head) tests = readTests scope (graft f expr.regrouped) rest

variable {scope}

theorem Reads.of_head {expr : Expr} (plain : expr.Plain) (noTest : expr.regrouped.isTest = false)
    (head : ∀ rest, Behind rest → Expr.readHead scope (expr.text.toList ++ rest) = some (expr.regrouped, rest)) :
    Reads scope expr := by
  intro rest behind
  have shorter := length_lt_append_of_suffix plain.text_ne_nil (List.suffix_refl rest)
  refine ⟨expr.regrouped, rest, head rest behind, shorter, fun f => ?_⟩
  rw [graft_of_not_isTest f noTest]

theorem readTests_stops {rest : List Char} (stops : Stops rest) (tested : Expr) :
    readTests scope tested rest = some (tested, rest) := by
  rw [readTests, stops.noTest]

/-- An expression is read up to where no test of it follows. -/
theorem Reads.readExpr {expr : Expr} (reads : Reads scope expr) {rest : List Char} (stops : Stops rest) :
    Expr.readExpr scope (expr.text.toList ++ rest) = some (expr.regrouped, rest) := by
  obtain ⟨head, tests, read, shorter, tested⟩ := reads rest stops.behind
  have tested := tested id
  rw [graft_id, readTests_stops stops] at tested
  rw [Expr.readExpr, read]
  simp only [ifShorter_eq shorter, Option.bind_eq_bind, Option.bind_some]
  exact tested

theorem stops_moreText (exprs : List Expr) (rest : List Char) : Stops ((moreText exprs).toList ++ rest) := by
  cases exprs with
  | nil => exact stops_closing rest
  | cons expr exprs =>
    rw [moreText, String.toList_append, String.toList_append, List.append_assoc, List.append_assoc]
    have closes : Closes ", " := by decide +kernel
    exact closes.stops _

theorem readMore_moreText {exprs : List Expr} (reads : ∀ expr ∈ exprs, Reads scope expr) (rest : List Char) :
    readMore scope ((moreText exprs).toList ++ rest) = some (regroupedAll exprs, rest) := by
  have differing : itemMarks.Pairwise fun entry entry' => Differ entry.1 entry'.1 := by decide +kernel
  induction exprs with
  | nil =>
    rw [readMore, moreText, firstMark?_append differing (.head _)]
    rfl
  | cons expr exprs ih =>
    obtain ⟨first, others⟩ := List.forall_mem_cons.mp reads
    have shorter {rest' : List Char} (suffix : rest' <:+ expr.text.toList ++ ((moreText exprs).toList ++ rest)) :=
      length_lt_append_of_suffix (show ", ".toList ≠ [] by decide) suffix
    rw [readMore, moreText, String.toList_append, String.toList_append, List.append_assoc, List.append_assoc,
      firstMark?_append differing (.tail _ (.head _))]
    simp only [ifShorter_eq (shorter List.suffix_rfl), ifShorter_eq (shorter (List.suffix_append _ _)),
      first.readExpr (stops_moreText exprs rest), ih others, regroupedAll, Option.bind_eq_bind, Option.bind_some,
      Option.pure_def]

theorem readItems_itemsText {exprs : List Expr} (plain : ∀ expr ∈ exprs, expr.Plain)
    (reads : ∀ expr ∈ exprs, Reads scope expr) (rest : List Char) :
    readItems scope ((itemsText exprs).toList ++ rest) = some (regroupedAll exprs, rest) := by
  cases exprs with
  | nil => rw [itemsText]; exact readItems.eq_1 ..
  | cons expr exprs =>
    obtain ⟨first, others⟩ := List.forall_mem_cons.mp reads
    have stops := stops_moreText exprs rest
    have opens := opensOperand_text (plain expr List.mem_cons_self) stops.behind
    have shorter := length_lt_append_of_suffix (plain expr List.mem_cons_self).text_ne_nil
      (List.suffix_refl ((moreText exprs).toList ++ rest))
    rw [itemsText, String.toList_append, List.append_assoc, readItems.eq_2 _ _ opens.noEnd]
    simp only [first.readExpr stops, ifShorter_eq shorter, readMore_moreText others, regroupedAll,
      Option.bind_eq_bind, Option.bind_some, Option.pure_def]

/-! ## Operations in parentheses -/

theorem operandMarks_differ : operandMarks.Pairwise fun entry entry' => Differ entry.1 entry'.1 := by
  decide +kernel

theorem mem_operandMarks (op : BinaryOp) : (operationMark op, .inr op) ∈ operandMarks := by
  have all : op ∈ operations := by cases op <;> decide
  exact .tail _ (.tail _ (List.mem_map.mpr ⟨op, all, rfl⟩))

theorem readOperation_binary (op : BinaryOp) {left right : Expr} (plain : left.Plain) (reads : Reads scope left)
    (reads' : Reads scope right) (rest : List Char) :
    readOperation scope
        (left.text.toList ++ ((operationMark op).toList ++ (right.text.toList ++ (")".toList ++ rest)))) =
      some (.binary op left.regrouped right.regrouped, rest) := by
  have stops := stops_operationMark op (right.text.toList ++ (")".toList ++ rest))
  have shorter : (right.text.toList ++ (")".toList ++ rest)).length <
      (left.text.toList ++ ((operationMark op).toList ++ (right.text.toList ++ (")".toList ++ rest)))).length :=
    length_lt_append_of_suffix plain.text_ne_nil (List.suffix_append _ _)
  rw [readOperation, (opensOperand_text plain stops.behind).noOperation]
  simp only [reads.readExpr stops, ifShorter_eq shorter, firstMark?_append operandMarks_differ (mem_operandMarks op),
    reads'.readExpr (stops_closing rest), after?_append, Option.bind_eq_bind, Option.bind_some, Option.pure_def]

/-- An operation on one operand stands before it or behind it. -/
theorem readOperation_unary (op : UnaryOp) {operand : Expr} (plain : operand.Plain) (reads : Reads scope operand)
    (rest : List Char) :
    readOperation scope
        ((unaryMarks op).1.toList ++ (operand.text.toList ++ ((unaryMarks op).2.toList ++ rest))) =
      some (.unary op operand.regrouped, rest) := by
  have before {op : UnaryOp} {mark : String} (nonempty : mark.toList ≠ [])
      (opens : ∀ rest, openingOperation? (mark.toList ++ rest) = some (op, rest)) :
      readOperation scope (mark.toList ++ (operand.text.toList ++ (")".toList ++ rest))) =
        some (.unary op operand.regrouped, rest) := by
    have shorter := length_lt_append_of_suffix nonempty
      (List.suffix_refl (operand.text.toList ++ (")".toList ++ rest)))
    rw [readOperation, opens]
    simp only [ifShorter_eq shorter, reads.readExpr (stops_closing rest), after?_append, Option.bind_eq_bind,
      Option.bind_some, Option.pure_def]
  have behind {op : UnaryOp} {mark : String} (closes : Closes mark) (marked : (mark, .inl op) ∈ operandMarks) :
      readOperation scope (operand.text.toList ++ (mark.toList ++ rest)) =
        some (.unary op operand.regrouped, rest) := by
    have stops := closes.stops rest
    rw [readOperation, (opensOperand_text plain stops.behind).noOperation]
    simp only [reads.readExpr stops, firstMark?_append operandMarks_differ marked, Option.bind_eq_bind,
      Option.bind_some, Option.pure_def]
  cases op with
  | not => exact before (by decide) fun _ => rfl
  | negate => exact before (by decide) fun _ => rfl
  | isNull => exact behind (by decide +kernel) (.head _)
  | isNotNull => exact behind (by decide +kernel) (.tail _ (.head _))

/-! ## Tests behind an operand -/

theorem testMarks_differ : testMarks.Pairwise fun entry entry' => Differ entry.1 entry'.1 := by
  decide +kernel

theorem mem_testMarks_inList (negated : Bool) : (inMark negated, .inList negated) ∈ testMarks := by
  cases negated <;> simp [testMarks]

theorem mem_testMarks_between (negated : Bool) : (betweenMark negated, .between negated) ∈ testMarks := by
  cases negated <;> simp [testMarks]

theorem readTests_inList (negated : Bool) (tested : Expr) {list : List Expr} (plain : ∀ expr ∈ list, expr.Plain)
    (reads : ∀ expr ∈ list, Reads scope expr) (rest : List Char) :
    readTests scope tested ((inMark negated).toList ++ ((itemsText list).toList ++ rest)) =
      readTests scope (.inList negated tested (regroupedAll list)) rest := by
  have shorter {rest' : List Char} (suffix : rest' <:+ (itemsText list).toList ++ rest) :=
    length_lt_append_of_suffix (inMark_ne_nil negated) suffix
  rw [readTests, firstMark?_append testMarks_differ (mem_testMarks_inList negated)]
  simp only [ifShorter_eq (shorter List.suffix_rfl), ifShorter_eq (shorter (List.suffix_append _ _)),
    readItems_itemsText plain reads, Option.bind_eq_bind, Option.bind_some]

/-- Of an upper bound only what is tested first is taken, its tests are read as tests of the BETWEEN. -/
theorem readTests_between (negated : Bool) (tested : Expr) {low high : Expr} (readsLow : Reads scope low)
    (readsHigh : Reads scope high) {rest : List Char} (behind : Behind rest) :
    readTests scope tested ((betweenMark negated).toList ++
        (low.text.toList ++ ((operationMark .and).toList ++ (high.text.toList ++ rest)))) =
      readTests scope (graft (.between negated tested low.regrouped) high.regrouped) rest := by
  have shorter {rest' : List Char}
      (suffix : rest' <:+ low.text.toList ++ ((operationMark .and).toList ++ (high.text.toList ++ rest))) :=
    length_lt_append_of_suffix (betweenMark_ne_nil negated) suffix
  have bound := shorter ((List.suffix_append _ _).trans (List.suffix_append _ _))
  obtain ⟨head, tests, read, behindHead, tested'⟩ := readsHigh rest behind
  rw [readTests, firstMark?_append testMarks_differ (mem_testMarks_between negated)]
  simp only [ifShorter_eq (shorter List.suffix_rfl), readsLow.readExpr (stops_operationMark .and _), after?_append,
    ifShorter_eq bound, read, ifShorter_eq (Nat.lt_trans behindHead bound), Option.bind_eq_bind, Option.bind_some]
  exact tested' (.between negated tested low.regrouped)

/-! ## Expressions -/

/-- The text of a plain expression over the scope is read as its regrouped one, by induction on the expression. -/
theorem reads_text {expr : Expr} (plain : expr.Plain) (inScope : expr.Over scope) : Reads scope expr := by
  induction plain with
  | @column entry named =>
    refine .of_head (.column named) rfl fun rest behind => ?_
    have found := inScope entry List.mem_cons_self
    show readHead scope (entry.name.toList ++ rest) = some (.column entry, rest)
    rw [named.word.readHead_word scope behind, ofWord?, named.noInteger, String.ofList_toList, found]
    rfl
  | integer value =>
    refine .of_head (.integer value) rfl fun rest behind => ?_
    show readHead scope ((toString value.toInt).toList ++ rest) = some (.literal (.integer value), rest)
    rw [(isWord_integer value).readHead_word scope behind, ofWord?, readInteger?_toString]
    rfl
  | @text value noQuote =>
    refine .of_head (.text noQuote) rfl fun rest behind => ?_
    rw [toList_text, readHead.eq_2, readText?_append noQuote, String.ofList_toList]
    rfl
  | binary op plainLeft plainRight ihLeft ihRight =>
    obtain ⟨inLeft, inRight⟩ := List.forall_mem_append.mp inScope
    refine .of_head (.binary op plainLeft plainRight) rfl fun rest behind => ?_
    rw [toList_binary, readHead.eq_1]
    exact readOperation_binary op plainLeft (ihLeft inLeft) (ihRight inRight) rest
  | unary op plain ih =>
    refine .of_head (.unary op plain) rfl fun rest behind => ?_
    rw [toList_unary, readHead.eq_1]
    exact readOperation_unary op plain (ih inScope) rest
  | @call name args named plain ih =>
    have inArgs := Over.of_mem inScope
    refine .of_head (.call named plain) rfl fun rest behind => ?_
    rw [toList_call, named.readHead_call,
      readItems_itemsText plain fun arg member => ih arg member (inArgs arg member), String.ofList_toList]
    rfl
  | @inList negated operand list plain plainList ih ihList =>
    obtain ⟨inOperand, inList⟩ := List.forall_mem_append.mp inScope
    have inItems := Over.of_mem inList
    intro rest behind
    -- the head of the operand is that of the whole, and its tests come before this one
    obtain ⟨head, tests, read, shorter, tested⟩ := ih inOperand _ (behind_inMark negated _)
    refine ⟨head, tests, by rw [toList_inList, read], by rwa [toList_inList], fun f => ?_⟩
    rw [tested, readTests_inList negated _ plainList fun item member => ihList item member (inItems item member)]
    rfl
  | @between negated operand low high plain plainLow plainHigh ih ihLow ihHigh =>
    obtain ⟨inBelow, inHigh⟩ := List.forall_mem_append.mp inScope
    obtain ⟨inOperand, inLow⟩ := List.forall_mem_append.mp inBelow
    intro rest behind
    obtain ⟨head, tests, read, shorter, tested⟩ := ih inOperand _ (behind_betweenMark negated _)
    refine ⟨head, tests, by rw [toList_between, read], by rwa [toList_between], fun f => ?_⟩
    -- the tests of the upper bound are read as tests of the BETWEEN, as grafting puts them
    rw [tested, readTests_between negated _ (ihLow inLow) (ihHigh inHigh) behind, regrouped, graft_graft]
    rfl

/-- Plain expressions over one scope have the same text exactly if they are the same up to the grouping of their
tests, and then their values have the same name. For each text there is one grouped expression, so the text is
unambiguous where no BETWEEN has a test for its upper bound. -/
theorem text_eq_iff_regrouped {expr expr' : Expr} (plain : expr.Plain) (plain' : expr'.Plain)
    (inScope : expr.Over scope) (inScope' : expr'.Over scope) :
    (expr.text = expr'.text ↔ expr.regrouped = expr'.regrouped) ∧
      (expr.text = expr'.text → expr.outputName = expr'.outputName) ∧
      (expr.regrouped.isGrouped = true ∧ expr.regrouped.text = expr.text) ∧
      (expr.isGrouped = true → expr'.isGrouped = true → expr.text = expr'.text → expr = expr') := by
  have read {expr : Expr} (plain : expr.Plain) (inScope : expr.Over scope) :
      readExpr scope expr.text.toList = some (expr.regrouped, []) := by
    have read := (reads_text plain inScope).readExpr stops_nil
    rwa [List.append_nil] at read
  have same (text : expr.text = expr'.text) : expr.regrouped = expr'.regrouped := by
    have both := read plain inScope
    rw [text, read plain' inScope'] at both
    exact (Prod.mk.inj (Option.some.inj both)).1.symm
  refine ⟨⟨same, fun regrouped => ?_⟩, fun text => ?_, ⟨isGrouped_regrouped expr, text_regrouped expr⟩, ?_⟩
  · rw [← text_regrouped expr, regrouped, text_regrouped]
  · rw [← outputName_regrouped expr, same text, outputName_regrouped]
  · intro grouped grouped' text
    rw [← regrouped_of_isGrouped expr grouped, same text, regrouped_of_isGrouped expr' grouped']

end

/-! The tests `(id BETWEEN 1 AND 2) IN (3)` and `id BETWEEN 1 AND (2 IN (3))`. -/

/-- The column that is tested. -/
def idColumn : Column :=
  { name := "id", type := { base := .integer } }

/-- The constant of SQL with these digits. -/
def number (digits : String) : Sql.Expr :=
  .constant (.number digits false)

/-- The test of a whole BETWEEN. -/
def testOfBetween : Expr :=
  .inList false (.between false (.column idColumn) (.literal (.integer 1)) (.literal (.integer 2)))
    [.literal (.integer 3)]

/-- The BETWEEN with a test for its upper bound. -/
def betweenWithTest : Expr :=
  .between false (.column idColumn) (.literal (.integer 1))
    (.inList false (.literal (.integer 2)) [.literal (.integer 3)])

theorem testOfBetween_bound :
    ofSql (some (.ofColumns [idColumn]))
      (.inList false (.between false (.ident ⟨"id", none⟩) (number "1") (number "2")) [number "3"]) =
        .ok testOfBetween :=
  rfl

theorem betweenWithTest_bound :
    ofSql (some (.ofColumns [idColumn]))
      (.between false (.ident ⟨"id", none⟩) (number "1") (.inList false (number "2") [number "3"])) =
        .ok betweenWithTest :=
  rfl

theorem text_eq_iff_regrouped_tests :
    (testOfBetween.Plain ∧ betweenWithTest.Plain) ∧
      (testOfBetween.Over (.ofColumns [idColumn]) ∧ betweenWithTest.Over (.ofColumns [idColumn])) ∧
      testOfBetween.text = betweenWithTest.text ∧ testOfBetween.outputName = betweenWithTest.outputName ∧
      (testOfBetween.isGrouped = true ∧ betweenWithTest.isGrouped = false) := by
  have column : (Expr.column idColumn).Plain :=
    .column (isColumnName_of_identifier (by decide) (by rintro _ ⟨rfl⟩; rfl) (List.all_eq_true.mp rfl) (by decide))
  have plain : testOfBetween.Plain :=
    .inList _ (.between _ column (.integer 1) (.integer 2)) (List.forall_mem_singleton.mpr (.integer 3))
  have plain' : betweenWithTest.Plain :=
    .between _ column (.integer 1) (.inList _ (.integer 2) (List.forall_mem_singleton.mpr (.integer 3)))
  have inScope : testOfBetween.Over (.ofColumns [idColumn]) :=
    over_of_ofSql (some [idColumn]) testOfBetween_bound
  have inScope' : betweenWithTest.Over (.ofColumns [idColumn]) :=
    over_of_ofSql (some [idColumn]) betweenWithTest_bound
  have both := text_eq_iff_regrouped plain plain' inScope inScope'
  have same := both.1.mpr rfl
  exact ⟨⟨plain, plain'⟩, ⟨inScope, inScope'⟩, same, both.2.1 same, rfl, rfl⟩

/-- Both are bound from what they are in SQL, and they are not the same, but their text is. -/
theorem text_of_tests_ambiguous :
    (∃ sql sql', ofSql (some (.ofColumns [idColumn])) sql = .ok testOfBetween ∧
      ofSql (some (.ofColumns [idColumn])) sql' = .ok betweenWithTest) ∧
      testOfBetween.text = "id BETWEEN 1 AND 2 IN (3)" ∧ betweenWithTest.text = "id BETWEEN 1 AND 2 IN (3)" ∧
      testOfBetween ≠ betweenWithTest :=
  ⟨⟨_, _, testOfBetween_bound, betweenWithTest_bound⟩, by decide +kernel, by decide +kernel, nofun⟩

end VideoPlan.Expr
