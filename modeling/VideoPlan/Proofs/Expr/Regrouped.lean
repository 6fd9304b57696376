import VideoPlan.Expr

/-!
# Tests without parentheses

The text of an operation stands in parentheses, that of a test with IN or BETWEEN does not. So where the upper
bound of a BETWEEN is a test, its text may as well be read as a test of the whole BETWEEN. Regrouping an expression
gives every test the most that it can test, which leaves the text as it is (`text_regrouped`).
-/

namespace VideoPlan.Expr

/-- Whether an expression tests an operand with IN or BETWEEN. -/
def isTest : Expr → Bool
  | .inList _ _ _ => true
  | .between _ _ _ _ => true
  | _ => false

/-- Puts another expression in the place of what is tested first, through all tests of it. -/
def graft (f : Expr → Expr) : Expr → Expr
  | .inList negated operand list => .inList negated (graft f operand) list
  | .between negated operand low high => .between negated (graft f operand) low high
  | expr => f expr

mutual

/-- The expression with every test behind a BETWEEN taken as a test of it. -/
def regrouped : Expr → Expr
  | .column entry => .column entry
  | .literal value => .literal value
  | .binary op left right => .binary op left.regrouped right.regrouped
  | .unary op operand => .unary op operand.regrouped
  | .call name args => .call name (regroupedAll args)
  | .inList negated operand list => .inList negated operand.regrouped (regroupedAll list)
  | .between negated operand low high =>
    graft (.between negated operand.regrouped low.regrouped) high.regrouped
  | .aliased operand name => .aliased operand.regrouped name

/-- The expressions with every test behind a BETWEEN taken as a test of it. -/
def regroupedAll : List Expr → List Expr
  | [] => []
  | expr :: exprs => expr.regrouped :: regroupedAll exprs

end

mutual

/-- Whether no BETWEEN in the expression has a test for its upper bound. -/
def isGrouped : Expr → Bool
  | .column _ => true
  | .literal _ => true
  | .binary _ left right => left.isGrouped && right.isGrouped
  | .unary _ operand => operand.isGrouped
  | .call _ args => areGrouped args
  | .inList _ operand list => operand.isGrouped && areGrouped list
  | .between _ operand low high =>
    operand.isGrouped && low.isGrouped && high.isGrouped && !high.isTest
  | .aliased operand _ => operand.isGrouped

/-- Whether no BETWEEN in the expressions has a test for its upper bound. -/
def areGrouped : List Expr → Bool
  | [] => true
  | expr :: exprs => expr.isGrouped && areGrouped exprs

end

/-! ## Grafts -/

/-- What is no test is itself what is tested first. -/
theorem graft_of_not_isTest (f : Expr → Expr) {expr : Expr} (noTest : expr.isTest = false) :
    graft f expr = f expr := by
  cases expr with
  | inList | between => cases noTest
  | _ => rfl

theorem isTest_eq_false {expr : Expr} (noList : ∀ negated operand list, expr = .inList negated operand list → False)
    (noBetween : ∀ negated operand low high, expr = .between negated operand low high → False) :
    expr.isTest = false := by
  cases expr with
  | inList negated operand list => exact absurd rfl (noList negated operand list)
  | between negated operand low high => exact absurd rfl (noBetween negated operand low high)
  | _ => rfl

theorem graft_id (expr : Expr) : graft id expr = expr := by
  fun_induction graft id expr with
  | case1 negated operand list ih => rw [ih]
  | case2 negated operand low high ih => rw [ih]
  | case3 => rfl

theorem graft_graft (f g : Expr → Expr) (expr : Expr) :
    graft f (graft g expr) = graft (fun tested => graft f (g tested)) expr := by
  fun_induction graft g expr with
  | case1 negated operand list ih => rw [graft, graft, ih]
  | case2 negated operand low high ih => rw [graft, graft, ih]
  | case3 expr noList noBetween => rw [graft_of_not_isTest _ (isTest_eq_false noList noBetween)]

theorem isTest_graft {f : Expr → Expr} (test : ∀ tested, (f tested).isTest = true) (expr : Expr) :
    (graft f expr).isTest = true := by
  cases expr with
  | inList | between => rfl
  | _ => exact test _

/-- What is tested first comes first in the text. -/
theorem text_graft {f : Expr → Expr} {before : String} (adds : ∀ tested, (f tested).text = before ++ tested.text)
    (expr : Expr) : (graft f expr).text = before ++ expr.text := by
  fun_induction graft f expr with
  | case1 negated operand list ih => simp only [text, ih, String.append_assoc]
  | case2 negated operand low high ih => simp only [text, ih, String.append_assoc]
  | case3 expr => exact adds expr

/-! ## Regrouped expressions -/

mutual

/-- Regrouping leaves the text as it is. -/
theorem text_regrouped : ∀ expr : Expr, expr.regrouped.text = expr.text
  | .column _ => rfl
  | .literal _ => rfl
  | .binary _ left right => by rw [regrouped, text, text, text_regrouped left, text_regrouped right]
  | .unary _ operand => by rw [regrouped, text, text, text_regrouped operand]
  | .call _ args => by rw [regrouped, text, text, texts_regroupedAll args]
  | .inList _ operand list => by rw [regrouped, text, text, text_regrouped operand, texts_regroupedAll list]
  | .between negated operand low high => by
    rw [regrouped, text_graft fun tested => by rw [text], text, text_regrouped operand, text_regrouped low,
      text_regrouped high]
  | .aliased operand _ => by rw [regrouped, text, text, text_regrouped operand]

theorem texts_regroupedAll : ∀ exprs : List Expr, texts (regroupedAll exprs) = texts exprs
  | [] => rfl
  | expr :: exprs => by rw [regroupedAll, texts, texts, text_regrouped expr, texts_regroupedAll exprs]

end

theorem outputName_of_isTest {expr : Expr} (test : expr.isTest = true) : expr.outputName = expr.text := by
  cases expr with
  | inList | between => rfl
  | _ => cases test

/-- Regrouping leaves the name of the value as it is. -/
theorem outputName_regrouped (expr : Expr) : expr.regrouped.outputName = expr.outputName := by
  cases expr with
  | between negated operand low high =>
    have test : (between negated operand low high).regrouped.isTest = true := by
      rw [regrouped]
      exact isTest_graft (fun _ => rfl) high.regrouped
    rw [outputName_of_isTest test, text_regrouped]
    rfl
  | binary | unary | inList => exact text_regrouped _
  | _ => rfl

theorem isGrouped_graft {f : Expr → Expr}
    (grouped : ∀ tested, tested.isTest = false → tested.isGrouped = true → (f tested).isGrouped = true) {expr : Expr}
    (groupedExpr : expr.isGrouped = true) : (graft f expr).isGrouped = true := by
  fun_induction graft f expr with
  | case1 negated operand list ih =>
    obtain ⟨groupedOperand, groupedList⟩ := Bool.and_eq_true_iff.mp groupedExpr
    exact Bool.and_eq_true_iff.mpr ⟨ih groupedOperand, groupedList⟩
  | case2 negated operand low high ih =>
    simp only [isGrouped, Bool.and_eq_true] at groupedExpr ⊢
    obtain ⟨⟨⟨groupedOperand, groupedLow⟩, groupedHigh⟩, noTest⟩ := groupedExpr
    exact ⟨⟨⟨ih groupedOperand, groupedLow⟩, groupedHigh⟩, noTest⟩
  | case3 expr noList noBetween => exact grouped expr (isTest_eq_false noList noBetween) groupedExpr

mutual

/-- A regrouped expression is grouped. -/
theorem isGrouped_regrouped : ∀ expr : Expr, expr.regrouped.isGrouped = true
  | .column _ => rfl
  | .literal _ => rfl
  | .binary _ left right => Bool.and_eq_true_iff.mpr ⟨isGrouped_regrouped left, isGrouped_regrouped right⟩
  | .unary _ operand => isGrouped_regrouped operand
  | .call _ args => areGrouped_regroupedAll args
  | .inList _ operand list => Bool.and_eq_true_iff.mpr ⟨isGrouped_regrouped operand, areGrouped_regroupedAll list⟩
  | .between _ operand low high => by
    refine isGrouped_graft (fun tested noTest grouped => ?_) (isGrouped_regrouped high)
    simp only [isGrouped, isGrouped_regrouped operand, isGrouped_regrouped low, grouped, noTest]
    rfl
  | .aliased operand _ => isGrouped_regrouped operand

theorem areGrouped_regroupedAll : ∀ exprs : List Expr, areGrouped (regroupedAll exprs) = true
  | [] => rfl
  | expr :: exprs => Bool.and_eq_true_iff.mpr ⟨isGrouped_regrouped expr, areGrouped_regroupedAll exprs⟩

end

mutual

/-- An expression without a test for an upper bound is grouped already. -/
theorem regrouped_of_isGrouped : ∀ expr : Expr, expr.isGrouped = true → expr.regrouped = expr
  | .column _, _ => rfl
  | .literal _, _ => rfl
  | .binary _ left right, grouped => by
    obtain ⟨groupedLeft, groupedRight⟩ := Bool.and_eq_true_iff.mp grouped
    rw [regrouped, regrouped_of_isGrouped left groupedLeft, regrouped_of_isGrouped right groupedRight]
  | .unary _ operand, grouped => by rw [regrouped, regrouped_of_isGrouped operand grouped]
  | .call _ args, grouped => by rw [regrouped, regroupedAll_of_areGrouped args grouped]
  | .inList _ operand list, grouped => by
    obtain ⟨groupedOperand, groupedList⟩ := Bool.and_eq_true_iff.mp grouped
    rw [regrouped, regrouped_of_isGrouped operand groupedOperand, regroupedAll_of_areGrouped list groupedList]
  | .between _ operand low high, grouped => by
    simp only [isGrouped, Bool.and_eq_true, Bool.not_eq_true'] at grouped
    obtain ⟨⟨⟨groupedOperand, groupedLow⟩, groupedHigh⟩, noTest⟩ := grouped
    rw [regrouped, regrouped_of_isGrouped operand groupedOperand, regrouped_of_isGrouped low groupedLow,
      regrouped_of_isGrouped high groupedHigh, graft_of_not_isTest _ noTest]
  | .aliased operand _, grouped => by rw [regrouped, regrouped_of_isGrouped operand grouped]

theorem regroupedAll_of_areGrouped : ∀ exprs : List Expr, areGrouped exprs = true → regroupedAll exprs = exprs
  | [], _ => rfl
  | expr :: exprs, grouped => by
    obtain ⟨groupedFirst, groupedOthers⟩ := Bool.and_eq_true_iff.mp grouped
    rw [regroupedAll, regrouped_of_isGrouped expr groupedFirst, regroupedAll_of_areGrouped exprs groupedOthers]

end

end VideoPlan.Expr
