import VideoPlan.Proofs.Action
import VideoPlan.Proofs.Expr.Order
import VideoPlan.Proofs.Scope
import VideoPlan.Proofs.Sql.Names

/-!
# Spellings of one expression

Binding forgets how an expression was spelled. `Variant` lists the single differences that it forgets and
`Alike` is the congruence that they generate: expressions are bound alike exactly if they are alike
(`bound_alike_iff`).

Most variants say the same in other words: parentheses, a sign plus, another case of a name. Some do not,
and are told apart by the flag `lossy`: binding drops the options of LIKE and whatever a call has beside
its arguments, and of the name of a function it keeps nothing but how the name is written. Among expressions
without such parts, and in which the names of functions tell their parts, only those that say the same are bound
alike. With them a LIKE that has an escape character is bound like one that has none (`escape_dropped`), and two
names with quotes inside quotes are bound to one (`quotes_confused`).
-/

namespace VideoPlan

namespace Sql.Expr

/-- The name that an expression consists of, without its qualifiers. -/
def name? : Expr → Option Ident
  | .ident name => some name
  | .compound parts => VideoPlan.Expr.nameOf? parts
  | _ => none

/-- The expression without the parentheses and the signs plus around it. -/
def bare : Expr → Expr
  | .nested inner => inner.bare
  | .unary .plus operand => operand.bare
  | sql => sql

/-- Whether binding keeps all that the node says beside its operands. -/
def isKept : Expr → Bool
  | .like _ any _ _ escape => !any && escape.isNone
  | .call name _ clauses => clauses.isPlain && tellsParts name
  | .bareCall name => tellsParts name
  | _ => true

/-- Whether binding keeps all that the expression says, unless it may be `lossy`. -/
def isWhole (lossy : Bool) (sql : Expr) : Bool :=
  (sql.walk true).all fun node => lossy || node.isKept

/-- Whether binding keeps all that the expressions say, unless it may be `lossy`. -/
def allWhole (lossy : Bool) (sqls : List Expr) : Bool :=
  (walkAll true sqls).all fun node => lossy || node.isKept

section

variable (lossy : Bool) (sql : Expr)

attribute [local simp] walk walkAll isKept

@[simp] theorem isWhole_binary (op : BinaryOperator) (left right : Expr) :
    (binary op left right).isWhole lossy = (left.isWhole lossy && right.isWhole lossy) := by
  simp [isWhole]

@[simp] theorem isWhole_unary (op : UnaryOperator) :
    (unary op sql).isWhole lossy = sql.isWhole lossy := by
  simp [isWhole]

@[simp] theorem isWhole_isNull : (isNull sql).isWhole lossy = sql.isWhole lossy := by
  simp [isWhole]

@[simp] theorem isWhole_isNotNull : (isNotNull sql).isWhole lossy = sql.isWhole lossy := by
  simp [isWhole]

@[simp] theorem isWhole_isTrue : (isTrue sql).isWhole lossy = sql.isWhole lossy := by
  simp [isWhole]

@[simp] theorem isWhole_nested : (nested sql).isWhole lossy = sql.isWhole lossy := by
  simp [isWhole]

@[simp] theorem isWhole_between (negated : Bool) (low high : Expr) :
    (between negated sql low high).isWhole lossy =
      (sql.isWhole lossy && low.isWhole lossy && high.isWhole lossy) := by
  simp [isWhole, Bool.and_assoc]

@[simp] theorem isWhole_inList (negated : Bool) (list : List Expr) :
    (inList negated sql list).isWhole lossy = (sql.isWhole lossy && allWhole lossy list) := by
  simp [isWhole, allWhole]

@[simp] theorem isWhole_like (negated any : Bool) (pattern : Expr) (escape : Option String) :
    (like negated any sql pattern escape).isWhole lossy =
      (sql.isWhole lossy && pattern.isWhole lossy && (lossy || (!any && escape.isNone))) := by
  simp [isWhole, Bool.and_assoc]

@[simp] theorem isWhole_call (name : ObjectName) (args : List Expr) (clauses : CallClauses) :
    (call name args clauses).isWhole lossy =
      (allWhole lossy args && (lossy || (clauses.isPlain && tellsParts name))) := by
  simp [isWhole, allWhole]

@[simp] theorem isWhole_bareCall (name : ObjectName) :
    (bareCall name).isWhole lossy = (lossy || tellsParts name) := by
  simp [isWhole]

@[simp] theorem isWhole_ident (name : Ident) : (ident name).isWhole lossy = true := by
  simp [isWhole]

@[simp] theorem isWhole_constant (value : Value) : (constant value).isWhole lossy = true := by
  simp [isWhole]

theorem isWhole_of_name? {sql : Expr} {name : Ident} (named : sql.name? = some name) :
    sql.isWhole lossy = true := by
  cases sql with
  | ident name => exact isWhole_ident lossy name
  | compound parts => simp [isWhole]
  | _ => cases named

@[simp] theorem allWhole_nil : allWhole lossy [] = true := rfl

@[simp] theorem allWhole_cons (sqls : List Expr) :
    allWhole lossy (sql :: sqls) = (sql.isWhole lossy && allWhole lossy sqls) := by
  simp [isWhole, allWhole]

end

@[simp] theorem isWhole_bare (lossy : Bool) : ∀ sql : Expr, sql.bare.isWhole lossy = sql.isWhole lossy
  | .nested inner => by rw [bare, isWhole_bare lossy inner, isWhole_nested]
  | .unary .plus operand => by rw [bare, isWhole_bare lossy operand, isWhole_unary]
  | .unary .not _ | .unary .minus _ | .unary (.other _ _) _ | .ident _ | .compound _ | .constant _
  | .binary _ _ _ | .isNull _ | .isNotNull _ | .isTrue _ | .between _ _ _ _ | .inList _ _ _
  | .like _ _ _ _ _ | .call _ _ _ | .bareCall _ | .queryCall _ _ | .argument _ | .subquery _
  | .other _ => rfl

/-- A lossy binding is asked to keep nothing. -/
@[simp] theorem isWhole_lossy (sql : Expr) : sql.isWhole true = true := by
  simp [isWhole]

end Sql.Expr

namespace Expr

/-! ## The relation -/

/-- A difference at the root of two expressions that binding does not see in the scope. -/
inductive Variant (scope : Option Scope) (lossy : Bool) : Sql.Expr → Sql.Expr → Prop
  | parens (inner : Sql.Expr) : Variant scope lossy (.nested inner) inner
  | plus (operand : Sql.Expr) : Variant scope lossy (.unary .plus operand) operand
  /-- A column by its name in another case or with other qualifiers. -/
  | name {sql sql' : Sql.Expr} {name name' : Sql.Ident} {column : Column} :
    sql.name? = some name → sql'.name? = some name' →
    Text.lowercase name.value = Text.lowercase name'.value →
    column? scope name.value = some column → column? scope name'.value = some column →
    Variant scope lossy sql sql'
  /-- A function by its name in another case, part by part. -/
  | callName {name name' : Sql.ObjectName} (args : List Sql.Expr) (clauses : Sql.CallClauses) :
    List.Forall₂ Sql.Ident.SameCased name name' →
    Variant scope lossy (.call name args clauses) (.call name' args clauses)
  | noArguments (name : Sql.ObjectName) :
    Variant scope lossy (.call name [] {}) (.bareCall name)
  | quotes (text : String) :
    Variant scope lossy (.constant (.doubleQuoted text)) (.constant (.string .plain text))
  /-- A number by another text. -/
  | number {digits digits' : String} {value : Scalar} (long long' : Bool) :
    readNumber? digits = some value → readNumber? digits' = some value →
    Variant scope lossy (.constant (.number digits long)) (.constant (.number digits' long'))
  /-- A LIKE with other options. -/
  | likeOptions (negated any any' : Bool) (operand pattern : Sql.Expr) (escape escape' : Option String) :
    lossy = true →
    Variant scope lossy (.like negated any operand pattern escape)
      (.like negated any' operand pattern escape')
  /-- A call with something else beside its arguments. -/
  | callClauses (name : Sql.ObjectName) (args : List Sql.Expr) (clauses clauses' : Sql.CallClauses) :
    lossy = true → Variant scope lossy (.call name args clauses) (.call name args clauses')
  /-- A function by other parts of its name that are written in the same way. -/
  | writtenName {name name' : Sql.ObjectName} (args : List Sql.Expr) (clauses : Sql.CallClauses) :
    lossy = true → Text.uppercase (Sql.dotted name) = Text.uppercase (Sql.dotted name') →
    Variant scope lossy (.call name args clauses) (.call name' args clauses)

mutual

/-- The congruence that the variants generate. -/
inductive Alike (scope : Option Scope) (lossy : Bool) : Sql.Expr → Sql.Expr → Prop
  | refl (sql : Sql.Expr) : Alike scope lossy sql sql
  | symm {sql sql' : Sql.Expr} : Alike scope lossy sql sql' → Alike scope lossy sql' sql
  | trans {sql sql' sql'' : Sql.Expr} :
    Alike scope lossy sql sql' → Alike scope lossy sql' sql'' → Alike scope lossy sql sql''
  | variant {sql sql' : Sql.Expr} : Variant scope lossy sql sql' → Alike scope lossy sql sql'
  | binary (op : Sql.BinaryOperator) {left left' right right' : Sql.Expr} :
    Alike scope lossy left left' → Alike scope lossy right right' →
    Alike scope lossy (.binary op left right) (.binary op left' right')
  | unary (op : Sql.UnaryOperator) {operand operand' : Sql.Expr} :
    Alike scope lossy operand operand' → Alike scope lossy (.unary op operand) (.unary op operand')
  | isNull {operand operand' : Sql.Expr} :
    Alike scope lossy operand operand' → Alike scope lossy (.isNull operand) (.isNull operand')
  | isNotNull {operand operand' : Sql.Expr} :
    Alike scope lossy operand operand' → Alike scope lossy (.isNotNull operand) (.isNotNull operand')
  | isTrue {operand operand' : Sql.Expr} :
    Alike scope lossy operand operand' → Alike scope lossy (.isTrue operand) (.isTrue operand')
  | between (negated : Bool) {operand operand' low low' high high' : Sql.Expr} :
    Alike scope lossy operand operand' → Alike scope lossy low low' → Alike scope lossy high high' →
    Alike scope lossy (.between negated operand low high) (.between negated operand' low' high')
  | inList (negated : Bool) {operand operand' : Sql.Expr} {list list' : List Sql.Expr} :
    Alike scope lossy operand operand' → AllAlike scope lossy list list' →
    Alike scope lossy (.inList negated operand list) (.inList negated operand' list')
  | like (negated any : Bool) (escape : Option String) {operand operand' pattern pattern' : Sql.Expr} :
    Alike scope lossy operand operand' → Alike scope lossy pattern pattern' →
    Alike scope lossy (.like negated any operand pattern escape)
      (.like negated any operand' pattern' escape)
  | call (name : Sql.ObjectName) (clauses : Sql.CallClauses) {args args' : List Sql.Expr} :
    AllAlike scope lossy args args' →
    Alike scope lossy (.call name args clauses) (.call name args' clauses)

/-- Expressions that are alike one by one. -/
inductive AllAlike (scope : Option Scope) (lossy : Bool) : List Sql.Expr → List Sql.Expr → Prop
  | nil : AllAlike scope lossy [] []
  | cons {sql sql' : Sql.Expr} {sqls sqls' : List Sql.Expr} :
    Alike scope lossy sql sql' → AllAlike scope lossy sqls sqls' →
    AllAlike scope lossy (sql :: sqls) (sql' :: sqls')

end

/-! ## What an expression was bound from -/

/-- The forms without parentheses and signs plus around them that an expression can be bound from. -/
inductive Source (scope : Option Scope) : Sql.Expr → Expr → Prop
  | name {sql : Sql.Expr} {name : Sql.Ident} {column : Column} :
    sql.name? = some name → column? scope name.value = some column → Source scope sql (.column column)
  | constant {value : Sql.Value} {scalar : Scalar} :
    value? value = some scalar → Source scope (.constant value) (.literal scalar)
  | binary {op : Sql.BinaryOperator} {operation : BinaryOp} {left right : Sql.Expr} {left' right' : Expr} :
    operation? op = some operation → ofSql scope left = .ok left' → ofSql scope right = .ok right' →
    Source scope (.binary op left right) (.binary operation left' right')
  | like {negated any : Bool} {escape : Option String} {operation : BinaryOp}
      {operand pattern : Sql.Expr} {operand' pattern' : Expr} :
    (if negated then .notLike else .like) = operation →
    ofSql scope operand = .ok operand' → ofSql scope pattern = .ok pattern' →
    Source scope (.like negated any operand pattern escape) (.binary operation operand' pattern')
  | not {operand : Sql.Expr} {operand' : Expr} :
    ofSql scope operand = .ok operand' →
    Source scope (.unary .not operand) (.unary .not operand')
  | minus {operand : Sql.Expr} {operand' : Expr} :
    ofSql scope operand = .ok operand' →
    Source scope (.unary .minus operand) (.unary .negate operand')
  | isNull {operand : Sql.Expr} {operand' : Expr} :
    ofSql scope operand = .ok operand' → Source scope (.isNull operand) (.unary .isNull operand')
  | isNotNull {operand : Sql.Expr} {operand' : Expr} :
    ofSql scope operand = .ok operand' → Source scope (.isNotNull operand) (.unary .isNotNull operand')
  | between {negated : Bool} {operand low high : Sql.Expr} {operand' low' high' : Expr} :
    ofSql scope operand = .ok operand' → ofSql scope low = .ok low' → ofSql scope high = .ok high' →
    Source scope (.between negated operand low high) (.between negated operand' low' high')
  | inList {negated : Bool} {operand : Sql.Expr} {list : List Sql.Expr} {operand' : Expr}
      {list' : List Expr} :
    ofSql scope operand = .ok operand' → ofSqlList scope list = .ok list' →
    Source scope (.inList negated operand list) (.inList negated operand' list')
  | call {name : Sql.ObjectName} {name' : String} {args : List Sql.Expr} {clauses : Sql.CallClauses}
      {args' : List Expr} :
    Text.uppercase (Sql.dotted name) = name' → ofSqlList scope args = .ok args' →
    Source scope (.call name args clauses) (.call name' args')
  | bareCall {name : Sql.ObjectName} {name' : String} :
    Text.uppercase (Sql.dotted name) = name' → Source scope (.bareCall name) (.call name' [])

/-- A name is bound to its column. -/
theorem ofName_eq_ok {scope : Option Scope} {name : String} {expr : Expr} :
    ofName scope name = .ok expr ↔ ∃ column, column? scope name = some column ∧ .column column = expr := by
  rw [ofName_eq_verdict, verdict_eq_ok]
  unfold nameFault? nameMeaning
  cases column? scope name <;> simp

theorem ofParts_eq_ok {scope : Option Scope} {parts : List Sql.Ident} {expr : Expr} :
    ofParts scope parts = .ok expr ↔
      ∃ name column, nameOf? parts = some name ∧ column? scope name.value = some column ∧
        .column column = expr := by
  rw [ofParts_eq_verdict, verdict_eq_ok]
  unfold partsFault? partsMeaning nameFault? nameMeaning
  cases nameOf? parts with
  | none => simp
  | some name => cases found : column? scope name.value <;> simp [found]

theorem ofValue_eq_ok {value : Sql.Value} {expr : Expr} :
    ofValue value = .ok expr ↔ ∃ scalar, value? value = some scalar ∧ .literal scalar = expr := by
  rw [ofValue_eq_verdict, verdict_eq_ok]
  unfold valueFault? valueMeaning
  cases value? value with
  | some scalar => simp
  | none => cases value <;> simp

theorem ofOperator_eq_ok {op : Sql.BinaryOperator} {operation : BinaryOp} :
    ofOperator op = .ok operation ↔ operation? op = some operation := by
  cases op <;> simp [ofOperator, operation?, unsupportedOperator]

/-- Every expression that can be bound is one of these forms, up to what stands around it. -/
theorem source_of_bound (scope : Option Scope) : ∀ (sql : Sql.Expr) (expr : Expr),
    ofSql scope sql = .ok expr → Source scope sql.bare expr
  | .ident name, expr, bound => by
    obtain ⟨column, found, rfl⟩ := ofName_eq_ok.mp bound
    exact .name rfl found
  | .compound parts, expr, bound => by
    obtain ⟨name, column, named, found, rfl⟩ := ofParts_eq_ok.mp bound
    exact .name named found
  | .constant value, expr, bound => by
    obtain ⟨scalar, read, rfl⟩ := ofValue_eq_ok.mp bound
    exact .constant read
  | .binary op left right, expr, bound => by
    simp only [ofSql, bind_eq_ok, pure_eq_ok] at bound
    obtain ⟨left', hleft, right', hright, operation, hop, rfl⟩ := bound
    exact .binary (ofOperator_eq_ok.mp hop) hleft hright
  | .nested inner, expr, bound => source_of_bound scope inner expr bound
  | .unary op operand, expr, bound => by
    simp only [ofSql, bind_eq_ok] at bound
    obtain ⟨operand', hoperand, happly⟩ := bound
    cases op with
    | not => cases happly; exact .not hoperand
    | minus => cases happly; exact .minus hoperand
    | plus => cases happly; exact source_of_bound scope operand expr hoperand
    | other symbol name => cases happly
  | .isNull operand, expr, bound => by
    simp only [ofSql, bind_eq_ok, pure_eq_ok] at bound
    obtain ⟨operand', hoperand, rfl⟩ := bound
    exact .isNull hoperand
  | .isNotNull operand, expr, bound => by
    simp only [ofSql, bind_eq_ok, pure_eq_ok] at bound
    obtain ⟨operand', hoperand, rfl⟩ := bound
    exact .isNotNull hoperand
  | .between negated operand low high, expr, bound => by
    simp only [ofSql, bind_eq_ok, pure_eq_ok] at bound
    obtain ⟨operand', hoperand, low', hlow, high', hhigh, rfl⟩ := bound
    exact .between hoperand hlow hhigh
  | .inList negated operand list, expr, bound => by
    simp only [ofSql, bind_eq_ok, pure_eq_ok] at bound
    obtain ⟨operand', hoperand, list', hlist, rfl⟩ := bound
    exact .inList hoperand hlist
  | .like negated any operand pattern escape, expr, bound => by
    simp only [ofSql, bind_eq_ok, pure_eq_ok] at bound
    obtain ⟨operand', hoperand, pattern', hpattern, rfl⟩ := bound
    exact .like rfl hoperand hpattern
  | .call name args clauses, expr, bound => by
    simp only [ofSql, bind_eq_ok, pure_eq_ok] at bound
    obtain ⟨args', hargs, rfl⟩ := bound
    exact .call rfl hargs
  | .bareCall name, expr, bound => by
    cases bound
    exact .bareCall rfl
  -- none of the others can be bound
  | .isTrue operand, expr, bound => by cases bound
  | .queryCall name query, expr, bound => by cases bound
  | .argument text, expr, bound => by cases bound
  | .subquery query, expr, bound => by cases bound
  | .other text, expr, bound => by cases bound

/-! ## Bound alike, then alike -/

/-- The operator that an operation on two operands is written by, unless it is LIKE. -/
def operator? : BinaryOp → Option Sql.BinaryOperator
  | .add => some .plus
  | .subtract => some .minus
  | .multiply => some .multiply
  | .divide => some .divide
  | .modulo => some .modulo
  | .eq => some .eq
  | .notEq => some .notEq
  | .lt => some .lt
  | .ltEq => some .ltEq
  | .gt => some .gt
  | .gtEq => some .gtEq
  | .and => some .and
  | .or => some .or
  | .concat => some .concat
  | .like | .notLike => none

theorem operator?_of_operation? {op : Sql.BinaryOperator} {operation : BinaryOp}
    (means : operation? op = some operation) : operator? operation = some op := by
  cases op <;> cases means <;> rfl

theorem operator?_like (negated : Bool) :
    operator? (if negated then .notLike else .like) = none := by
  cases negated <;> rfl

theorem negated_injective {negated negated' : Bool}
    (same : (if negated then BinaryOp.notLike else .like) = if negated' then .notLike else .like) :
    negated = negated' := by
  cases negated <;> cases negated' <;> first | rfl | cases same

theorem alike_bare (scope : Option Scope) (lossy : Bool) : ∀ sql : Sql.Expr,
    Alike scope lossy sql sql.bare
  | .nested inner => .trans (.variant (.parens inner)) (alike_bare scope lossy inner)
  | .unary .plus operand => .trans (.variant (.plus operand)) (alike_bare scope lossy operand)
  | .unary .not _ | .unary .minus _ | .unary (.other _ _) _ | .ident _ | .compound _ | .constant _
  | .binary _ _ _ | .isNull _ | .isNotNull _ | .isTrue _ | .between _ _ _ _ | .inList _ _ _
  | .like _ _ _ _ _ | .call _ _ _ | .bareCall _ | .queryCall _ _ | .argument _ | .subquery _
  | .other _ => .refl _

/-- Two expressions that were bound to the same are alike if all sources of the result are. -/
theorem alike_of_sources {scope : Option Scope} {lossy : Bool} {expr : Expr}
    (alike : ∀ sql sql' : Sql.Expr, sql.isWhole lossy = true → sql'.isWhole lossy = true →
      Source scope sql expr → Source scope sql' expr → Alike scope lossy sql sql')
    {sql sql' : Sql.Expr} (whole : sql.isWhole lossy = true) (whole' : sql'.isWhole lossy = true)
    (bound : ofSql scope sql = .ok expr) (bound' : ofSql scope sql' = .ok expr) :
    Alike scope lossy sql sql' := by
  rw [← Sql.Expr.isWhole_bare] at whole whole'
  have between := alike sql.bare sql'.bare whole whole' (source_of_bound scope sql expr bound)
    (source_of_bound scope sql' expr bound')
  exact .trans (alike_bare scope lossy sql) (.trans between (.symm (alike_bare scope lossy sql')))

/-- Whether a constant is a number. -/
def isNumber : Scalar → Bool
  | .integer _ | .float _ | .decimal _ => true
  | _ => false

theorem isNumber_of_readNumber? {digits : String} {value : Scalar}
    (read : readNumber? digits = some value) : isNumber value = true := by
  simp only [readNumber?] at read
  split at read
  · cases read; rfl
  · split at read
    · cases read; rfl
    · obtain ⟨number, -, rfl⟩ := Option.map_eq_some_iff.mp read
      rfl

/-- A constant that is no number, in one spelling. -/
def plainValue : Scalar → Sql.Value
  | .text text => .string .plain text
  | .boolean value => .boolean value
  | _ => .null

theorem alike_plainValue {scope : Option Scope} {lossy : Bool} {value : Sql.Value} {scalar : Scalar}
    (read : value? value = some scalar) (noNumber : isNumber scalar = false) :
    Alike scope lossy (.constant value) (.constant (plainValue scalar)) := by
  cases value with
  | number digits long =>
    have number := isNumber_of_readNumber? (read : readNumber? digits = some scalar)
    rw [noNumber] at number
    cases number
  | string style text => cases style <;> cases read; exact .refl _
  | doubleQuoted text => cases read; exact .variant (.quotes text)
  | boolean value => cases read; exact .refl _
  | null => cases read; exact .refl _
  | placeholder name => cases read

theorem number_of_value? {value : Sql.Value} {scalar : Scalar} (read : value? value = some scalar)
    (number : isNumber scalar = true) :
    ∃ digits long, value = .number digits long ∧ readNumber? digits = some scalar := by
  cases value with
  | number digits long => exact ⟨digits, long, rfl, read⟩
  | string style text => cases style <;> cases read; cases number
  | placeholder name => cases read
  | _ => cases read; cases number

/-- Constants of the same value are alike. -/
theorem alike_of_value? {scope : Option Scope} {lossy : Bool} {value value' : Sql.Value} {scalar : Scalar}
    (read : value? value = some scalar) (read' : value? value' = some scalar) :
    Alike scope lossy (.constant value) (.constant value') := by
  cases number : isNumber scalar with
  | false => exact .trans (alike_plainValue read number) (.symm (alike_plainValue read' number))
  | true =>
    obtain ⟨digits, long, rfl, hdigits⟩ := number_of_value? read number
    obtain ⟨digits', long', rfl, hdigits'⟩ := number_of_value? read' number
    exact .variant (.number long long' hdigits hdigits')

/-- LIKEs that keep their options have the same ones. -/
theorem alike_like {scope : Option Scope} {lossy : Bool} {negated any any' : Bool}
    {escape escape' : Option String} {operand operand' pattern pattern' : Sql.Expr}
    (kept : (lossy || (!any && escape.isNone)) = true)
    (kept' : (lossy || (!any' && escape'.isNone)) = true)
    (operands : Alike scope lossy operand operand') (patterns : Alike scope lossy pattern pattern') :
    Alike scope lossy (.like negated any operand pattern escape)
      (.like negated any' operand' pattern' escape') := by
  refine .trans (.like negated any escape operands patterns) ?_
  cases lossy with
  | true => exact .variant (.likeOptions negated any any' operand' pattern' escape escape' rfl)
  | false =>
    simp only [Bool.false_or, Bool.and_eq_true, Bool.not_eq_true', Option.isNone_iff_eq_none] at kept kept'
    obtain ⟨rfl, rfl⟩ := kept
    obtain ⟨rfl, rfl⟩ := kept'
    exact .refl _

/-- The names of a function are the same but for case, if binding keeps their parts. -/
theorem variant_of_uppercase {scope : Option Scope} {lossy : Bool} {name name' : Sql.ObjectName}
    (kept : (lossy || Sql.tellsParts name) = true) (kept' : (lossy || Sql.tellsParts name') = true)
    (same : Text.uppercase (Sql.dotted name) = Text.uppercase (Sql.dotted name'))
    (args : List Sql.Expr) (clauses : Sql.CallClauses) :
    Variant scope lossy (.call name args clauses) (.call name' args clauses) := by
  cases lossy with
  | true => exact .writtenName args clauses rfl same
  | false => exact .callName args clauses (Sql.sameCased_of_uppercase_dotted kept kept' same)

theorem kept_none {lossy : Bool} {name : Sql.ObjectName} (kept : (lossy || Sql.tellsParts name) = true) :
    (lossy || (({} : Sql.CallClauses).isPlain && Sql.tellsParts name)) = true := by
  simpa [Sql.CallClauses.isPlain] using kept

/-- Calls of a function with arguments that are alike are alike, if they keep what stands beside these. -/
theorem alike_call {scope : Option Scope} {lossy : Bool} {name name' : Sql.ObjectName}
    {clauses clauses' : Sql.CallClauses} {args args' : List Sql.Expr}
    (kept : (lossy || (clauses.isPlain && Sql.tellsParts name)) = true)
    (kept' : (lossy || (clauses'.isPlain && Sql.tellsParts name')) = true)
    (same : Text.uppercase (Sql.dotted name) = Text.uppercase (Sql.dotted name'))
    (alike : AllAlike scope lossy args args') :
    Alike scope lossy (.call name args clauses) (.call name' args' clauses') := by
  simp only [Bool.or_and_distrib_left, Bool.and_eq_true] at kept kept'
  refine .trans (.call name clauses alike)
    (.trans (.variant (variant_of_uppercase kept.2 kept'.2 same args' clauses)) ?_)
  cases lossy with
  | true => exact .variant (.callClauses name' args' clauses clauses' rfl)
  | false =>
    simp only [Bool.false_or, Sql.CallClauses.isPlain, decide_eq_true_eq] at kept kept'
    rw [kept.1, kept'.1]
    exact .refl _

/-- A call without arguments is alike with and without parentheses. -/
theorem alike_bareCall {scope : Option Scope} {lossy : Bool} {name name' : Sql.ObjectName}
    {clauses : Sql.CallClauses} (kept : (lossy || (clauses.isPlain && Sql.tellsParts name)) = true)
    (kept' : (lossy || Sql.tellsParts name') = true)
    (same : Text.uppercase (Sql.dotted name) = Text.uppercase (Sql.dotted name')) :
    Alike scope lossy (.call name [] clauses) (.bareCall name') :=
  .trans (alike_call kept (kept_none kept') same .nil) (.variant (.noArguments name'))

theorem eq_nil_of_ofSqlList {scope : Option Scope} {sqls : List Sql.Expr}
    (bound : ofSqlList scope sqls = .ok []) : sqls = [] := by
  cases sqls with
  | nil => rfl
  | cons sql sqls =>
    simp only [ofSqlList, bind_eq_ok, pure_eq_ok] at bound
    obtain ⟨expr, -, exprs, -, impossible⟩ := bound
    cases impossible

mutual

/-- The induction is on what the expressions were bound to. It tells which forms they can have but for what
stands around them, and their parts are bound alike again. -/
theorem alike_of_bound {scope : Option Scope} (keyed : ∀ known ∈ scope, known.Keyed) {lossy : Bool} :
    ∀ (expr : Expr) {sql sql' : Sql.Expr}, sql.isWhole lossy = true → sql'.isWhole lossy = true →
      ofSql scope sql = .ok expr → ofSql scope sql' = .ok expr → Alike scope lossy sql sql'
  | .column entry, _, _, whole, whole', bound, bound' => by
    refine alike_of_sources (fun sql sql' _ _ source source' => ?_) whole whole' bound bound'
    cases source with | name named found => ?_
    cases source' with | name named' found' => ?_
    obtain ⟨known, inScope, foundKnown⟩ := Option.bind_eq_some_iff.mp found
    obtain ⟨known', inScope', foundKnown'⟩ := Option.bind_eq_some_iff.mp found'
    have same := (keyed known inScope).lowercase_name foundKnown
    have same' := (keyed known' inScope').lowercase_name foundKnown'
    exact .variant (.name named named' (same.symm.trans same') found found')
  | .literal value, _, _, whole, whole', bound, bound' => by
    refine alike_of_sources (fun sql sql' _ _ source source' => ?_) whole whole' bound bound'
    cases source with | constant read => ?_
    cases source' with | constant read' => ?_
    exact alike_of_value? read read'
  | .binary operation left right, _, _, whole, whole', bound, bound' => by
    refine alike_of_sources (fun sql sql' whole whole' source source' => ?_) whole whole' bound bound'
    cases source with
    | binary means hleft hright =>
      have written := operator?_of_operation? means
      cases source' with
      | binary means' hleft' hright' =>
        cases written.symm.trans (operator?_of_operation? means')
        simp only [Sql.Expr.isWhole_binary, Bool.and_eq_true] at whole whole'
        exact .binary _ (alike_of_bound keyed left whole.1 whole'.1 hleft hleft')
          (alike_of_bound keyed right whole.2 whole'.2 hright hright')
      | like means' _ _ =>
        rw [← means', operator?_like] at written
        cases written
    | like means hoperand hpattern =>
      cases source' with
      | binary means' _ _ =>
        have written := operator?_of_operation? means'
        rw [← means, operator?_like] at written
        cases written
      | like means' hoperand' hpattern' =>
        cases negated_injective (means.trans means'.symm)
        simp only [Sql.Expr.isWhole_like, Bool.and_eq_true] at whole whole'
        exact alike_like whole.2 whole'.2
          (alike_of_bound keyed left whole.1.1 whole'.1.1 hoperand hoperand')
          (alike_of_bound keyed right whole.1.2 whole'.1.2 hpattern hpattern')
  | .unary op operand, _, _, whole, whole', bound, bound' => by
    refine alike_of_sources (fun sql sql' whole whole' source source' => ?_) whole whole' bound bound'
    cases source with
    | not hoperand =>
      cases source' with
      | not hoperand' =>
        rw [Sql.Expr.isWhole_unary] at whole whole'
        exact .unary _ (alike_of_bound keyed operand whole whole' hoperand hoperand')
    | minus hoperand =>
      cases source' with
      | minus hoperand' =>
        rw [Sql.Expr.isWhole_unary] at whole whole'
        exact .unary _ (alike_of_bound keyed operand whole whole' hoperand hoperand')
    | isNull hoperand =>
      cases source' with
      | isNull hoperand' =>
        rw [Sql.Expr.isWhole_isNull] at whole whole'
        exact .isNull (alike_of_bound keyed operand whole whole' hoperand hoperand')
    | isNotNull hoperand =>
      cases source' with
      | isNotNull hoperand' =>
        rw [Sql.Expr.isWhole_isNotNull] at whole whole'
        exact .isNotNull (alike_of_bound keyed operand whole whole' hoperand hoperand')
  | .call name args, _, _, whole, whole', bound, bound' => by
    refine alike_of_sources (fun sql sql' whole whole' source source' => ?_) whole whole' bound bound'
    cases source with
    | call means hargs =>
      cases source' with
      | call means' hargs' =>
        simp only [Sql.Expr.isWhole_call, Bool.and_eq_true] at whole whole'
        exact alike_call whole.2 whole'.2 (means.trans means'.symm)
          (allAlike_of_bound keyed args whole.1 whole'.1 hargs hargs')
      | bareCall means' =>
        cases eq_nil_of_ofSqlList hargs
        rw [Sql.Expr.isWhole_call] at whole
        rw [Sql.Expr.isWhole_bareCall] at whole'
        exact alike_bareCall whole whole' (means.trans means'.symm)
    | bareCall means =>
      cases source' with
      | call means' hargs' =>
        cases eq_nil_of_ofSqlList hargs'
        rw [Sql.Expr.isWhole_bareCall] at whole
        rw [Sql.Expr.isWhole_call] at whole'
        exact .symm (alike_bareCall whole' whole (means'.trans means.symm))
      | bareCall means' =>
        rw [Sql.Expr.isWhole_bareCall] at whole whole'
        exact .trans (.symm (.variant (.noArguments _)))
          (alike_bareCall (kept_none whole) whole' (means.trans means'.symm))
  | .inList negated operand list, _, _, whole, whole', bound, bound' => by
    refine alike_of_sources (fun sql sql' whole whole' source source' => ?_) whole whole' bound bound'
    cases source with | inList hoperand hlist => ?_
    cases source' with | inList hoperand' hlist' => ?_
    simp only [Sql.Expr.isWhole_inList, Bool.and_eq_true] at whole whole'
    exact .inList negated (alike_of_bound keyed operand whole.1 whole'.1 hoperand hoperand')
      (allAlike_of_bound keyed list whole.2 whole'.2 hlist hlist')
  | .between negated operand low high, _, _, whole, whole', bound, bound' => by
    refine alike_of_sources (fun sql sql' whole whole' source source' => ?_) whole whole' bound bound'
    cases source with | between hoperand hlow hhigh => ?_
    cases source' with | between hoperand' hlow' hhigh' => ?_
    simp only [Sql.Expr.isWhole_between, Bool.and_eq_true] at whole whole'
    exact .between negated (alike_of_bound keyed operand whole.1.1 whole'.1.1 hoperand hoperand')
      (alike_of_bound keyed low whole.1.2 whole'.1.2 hlow hlow')
      (alike_of_bound keyed high whole.2 whole'.2 hhigh hhigh')
  | .aliased operand label, _, _, whole, whole', bound, bound' => by
    -- binding renames nothing
    refine alike_of_sources (fun sql sql' _ _ source _ => ?_) whole whole' bound bound'
    cases source

theorem allAlike_of_bound {scope : Option Scope} (keyed : ∀ known ∈ scope, known.Keyed) {lossy : Bool} :
    ∀ (exprs : List Expr) {sqls sqls' : List Sql.Expr}, Sql.Expr.allWhole lossy sqls = true →
      Sql.Expr.allWhole lossy sqls' = true →
      ofSqlList scope sqls = .ok exprs → ofSqlList scope sqls' = .ok exprs →
      AllAlike scope lossy sqls sqls'
  | [], sqls, sqls', _, _, bound, bound' => by
    rw [eq_nil_of_ofSqlList bound, eq_nil_of_ofSqlList bound']
    exact .nil
  | expr :: exprs, [], _, _, _, bound, _ => nomatch bound
  | expr :: exprs, _, [], _, _, _, bound' => nomatch bound'
  | expr :: exprs, sql :: sqls, sql' :: sqls', whole, whole', bound, bound' => by
    simp only [ofSqlList, bind_eq_ok, pure_eq_ok, List.cons.injEq] at bound bound'
    obtain ⟨expr', hfirst, exprs', hrest, rfl, rfl⟩ := bound
    obtain ⟨expr'', hfirst', exprs'', hrest', rfl, rfl⟩ := bound'
    simp only [Sql.Expr.allWhole_cons, Bool.and_eq_true] at whole whole'
    exact .cons (alike_of_bound keyed _ whole.1 whole'.1 hfirst hfirst')
      (allAlike_of_bound keyed _ whole.2 whole'.2 hrest hrest')

end

/-! ## Alike, then bound alike -/

theorem ofSql_of_name? {scope : Option Scope} {sql : Sql.Expr} {name : Sql.Ident} {column : Column}
    (named : sql.name? = some name) (found : column? scope name.value = some column) :
    ofSql scope sql = .ok (.column column) := by
  cases sql with
  | ident name => cases named; exact ofName_eq_ok.mpr ⟨column, found, rfl⟩
  | compound parts => exact ofParts_eq_ok.mpr ⟨name, column, named, found, rfl⟩
  | _ => cases named

/-- A variant can be bound exactly if the other one can, and to the same. -/
theorem Variant.bound_iff {scope : Option Scope} {lossy : Bool} {sql sql' : Sql.Expr}
    (variant : Variant scope lossy sql sql') (expr : Expr) :
    ofSql scope sql = .ok expr ↔ ofSql scope sql' = .ok expr := by
  cases variant with
  | parens inner => rfl
  | plus operand => simp [ofSql, applyUnary, bind_eq_ok]
  | name named named' same found found' => rw [ofSql_of_name? named found, ofSql_of_name? named' found']
  | callName args clauses same => simp only [ofSql, function, Sql.uppercase_dotted_of_sameCased same]
  | noArguments name => rfl
  | quotes text => rfl
  | number long long' read read' => simp only [ofSql, ofValue, read, read']
  | likeOptions negated any any' operand pattern escape escape' lossy => rfl
  | callClauses name args clauses clauses' lossy => rfl
  | writtenName args clauses lossy same => simp only [ofSql, function, same]

mutual

/-- What is alike can be bound to the same, or neither can be bound. -/
theorem Alike.bound_iff {scope : Option Scope} {lossy : Bool} : ∀ {sql sql' : Sql.Expr},
    Alike scope lossy sql sql' → ∀ expr, ofSql scope sql = .ok expr ↔ ofSql scope sql' = .ok expr
  | _, _, .refl sql, expr => Iff.rfl
  | _, _, .symm alike, expr => (alike.bound_iff expr).symm
  | _, _, .trans alike alike', expr => (alike.bound_iff expr).trans (alike'.bound_iff expr)
  | _, _, .variant variant, expr => variant.bound_iff expr
  | _, _, .binary op left right, expr => by
    simp only [ofSql, bind_eq_ok, left.bound_iff, right.bound_iff]
  | _, _, .unary op operand, expr => by simp only [ofSql, bind_eq_ok, operand.bound_iff]
  | _, _, .isNull operand, expr => by simp only [ofSql, bind_eq_ok, operand.bound_iff]
  | _, _, .isNotNull operand, expr => by simp only [ofSql, bind_eq_ok, operand.bound_iff]
  | _, _, .isTrue operand, expr => iff_of_false (fun bound => nomatch bound) (fun bound => nomatch bound)
  | _, _, .between negated operand low high, expr => by
    simp only [ofSql, bind_eq_ok, operand.bound_iff, low.bound_iff, high.bound_iff]
  | _, _, .inList negated operand list, expr => by
    simp only [ofSql, bind_eq_ok, operand.bound_iff, list.bound_iff]
  | _, _, .like negated any escape operand pattern, expr => by
    simp only [ofSql, bind_eq_ok, operand.bound_iff, pattern.bound_iff]
  | _, _, .call name clauses args, expr => by simp only [ofSql, bind_eq_ok, args.bound_iff]

theorem AllAlike.bound_iff {scope : Option Scope} {lossy : Bool} : ∀ {sqls sqls' : List Sql.Expr},
    AllAlike scope lossy sqls sqls' →
    ∀ exprs, ofSqlList scope sqls = .ok exprs ↔ ofSqlList scope sqls' = .ok exprs
  | _, _, .nil, exprs => Iff.rfl
  | _, _, .cons first rest, exprs => by
    simp only [ofSqlList, bind_eq_ok, first.bound_iff, rest.bound_iff]

end

/-! ## What is kept -/

mutual

/-- Without loss, the parts that binding drops are not changed by respelling. -/
theorem Alike.isWhole_eq {scope : Option Scope} : ∀ {sql sql' : Sql.Expr},
    Alike scope false sql sql' → sql.isWhole false = sql'.isWhole false
  | _, _, .refl sql => rfl
  | _, _, .symm alike => alike.isWhole_eq.symm
  | _, _, .trans alike alike' => alike.isWhole_eq.trans alike'.isWhole_eq
  | _, _, .variant variant => by
    cases variant with
    | name named named' same found found' =>
      rw [Sql.Expr.isWhole_of_name? false named, Sql.Expr.isWhole_of_name? false named']
    | likeOptions _ _ _ _ _ _ _ lossy => cases lossy
    | callClauses _ _ _ _ lossy => cases lossy
    | writtenName _ _ lossy _ => cases lossy
    | callName args clauses same => simp [Sql.tellsParts_eq_of_sameCased same]
    | noArguments name => simp [Sql.CallClauses.isPlain]
    | _ => simp
  | _, _, .binary op left right => by simp [left.isWhole_eq, right.isWhole_eq]
  | _, _, .unary op operand => by simp [operand.isWhole_eq]
  | _, _, .isNull operand => by simp [operand.isWhole_eq]
  | _, _, .isNotNull operand => by simp [operand.isWhole_eq]
  | _, _, .isTrue operand => by simp [operand.isWhole_eq]
  | _, _, .between negated operand low high => by
    simp [operand.isWhole_eq, low.isWhole_eq, high.isWhole_eq]
  | _, _, .inList negated operand list => by simp [operand.isWhole_eq, list.allWhole_eq]
  | _, _, .like negated any escape operand pattern => by
    simp [operand.isWhole_eq, pattern.isWhole_eq]
  | _, _, .call name clauses args => by simp [args.allWhole_eq]

theorem AllAlike.allWhole_eq {scope : Option Scope} : ∀ {sqls sqls' : List Sql.Expr},
    AllAlike scope false sqls sqls' → Sql.Expr.allWhole false sqls = Sql.Expr.allWhole false sqls'
  | _, _, .nil => rfl
  | _, _, .cons first rest => by simp [first.isWhole_eq, rest.allWhole_eq]

end

/-! ## Main statement -/

/-- The columns of the small tables in the examples below. -/
def labelColumns : List Column :=
  [{ name := "id", type := { base := .integer } },
    { name := "label", type := { base := .text }, index := 1 }]

/-- A LIKE of a label. -/
def labelLike (escape : Option String) : Sql.Expr :=
  .like false false (.ident { value := "label" }) (.constant (.string .plain "a!%")) escape

/-- A LIKE with an escape character is bound like the one without it, though they do not say the same. -/
theorem escape_dropped :
    let scope := some (Scope.ofColumns labelColumns)
    (∃ expr, ofSql scope (labelLike (some "!")) = .ok expr ∧ ofSql scope (labelLike none) = .ok expr) ∧
      ¬ Alike scope false (labelLike (some "!")) (labelLike none) := by
  refine ⟨⟨_, rfl, rfl⟩, fun alike => ?_⟩
  have whole := alike.isWhole_eq
  simp [labelLike] at whole

/-- A call of a function by a name in quotes. -/
def quotedCall (value : String) : Sql.Expr :=
  .call [{ value, quote := some '"' }] [] {}

/-- A quote inside quotes is doubled unless it is doubled already, so two functions are bound to one though their
names are not the same in any case. -/
theorem quotes_confused (scope : Option Scope) :
    (∃ expr, ofSql scope (quotedCall "a\"b") = .ok expr ∧ ofSql scope (quotedCall "a\"\"b") = .ok expr) ∧
      ¬ Alike scope false (quotedCall "a\"b") (quotedCall "a\"\"b") := by
  refine ⟨⟨_, rfl, rfl⟩, fun alike => ?_⟩
  have whole := alike.isWhole_eq
  exact absurd whole (by decide +kernel)

/-- Whatever can be bound over the columns of a table, or without any, is bound to the same exactly if it is
alike up to the options of LIKE, to what calls have beside their arguments and to names of functions that are
written in the same way. Expressions without such parts, in which the names of functions tell their parts, are
bound to the same exactly if they say the same: if they are related by the congruence of parentheses, signs plus,
other spellings of columns, other cases of functions, calls without parentheses, quotes of strings and texts of
numbers. -/
theorem bound_alike_iff (columns : Option (List Column)) {sql sql' : Sql.Expr} {expr expr' : Expr}
    (bound : ofSql (columns.map .ofColumns) sql = .ok expr)
    (bound' : ofSql (columns.map .ofColumns) sql' = .ok expr') :
    (expr = expr' ↔ Alike (columns.map .ofColumns) true sql sql') ∧
      (sql.isWhole false = true → sql'.isWhole false = true →
        (expr = expr' ↔ Alike (columns.map .ofColumns) false sql sql')) := by
  have keyed : ∀ known ∈ columns.map Scope.ofColumns, known.Keyed := by
    intro known member
    obtain ⟨list, -, rfl⟩ := Option.map_eq_some_iff.mp member
    exact Scope.keyed_ofColumns list
  have alike_iff : ∀ lossy, sql.isWhole lossy = true → sql'.isWhole lossy = true →
      (expr = expr' ↔ Alike (columns.map .ofColumns) lossy sql sql') := by
    intro lossy whole whole'
    constructor
    · rintro rfl
      exact alike_of_bound keyed expr whole whole' bound bound'
    · intro alike
      have same := ((alike.bound_iff expr).mp bound).symm.trans bound'
      exact Except.ok.inj same
  exact ⟨alike_iff true (Sql.Expr.isWhole_lossy sql) (Sql.Expr.isWhole_lossy sql'), alike_iff false⟩

/-- Other parentheses, another sign, other quotes and another case say the same. -/
theorem bound_alike_iff_respelled :
    let scope := some (Scope.ofColumns labelColumns)
    let sql : Sql.Expr := .binary .eq (.call [{ value := "detect" }] [.ident { value := "ID" }] {})
      (.constant (.number "7" false))
    let sql' : Sql.Expr := .binary .eq
      (.call [{ value := "Detect" }] [.compound [{ value := "t" }, { value := "id", quote := some '"' }]] {})
      (.nested (.unary .plus (.constant (.number "007" false))))
    Alike scope false sql sql' := by
  intro scope sql sql'
  let column : Column := { name := "id", type := { base := .integer } }
  let expr : Expr := .binary .eq (.call "DETECT" [.column column]) (.literal (.integer 7))
  have bound : ofSql scope sql = .ok expr := rfl
  have bound' : ofSql scope sql' = .ok expr := rfl
  have whole : sql.isWhole false = true := by decide +kernel
  have whole' : sql'.isWhole false = true := by decide +kernel
  exact ((bound_alike_iff (some labelColumns) bound bound').2 whole whole').mp rfl

end Expr

end VideoPlan
