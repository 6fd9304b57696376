import VideoPlan.Proofs.Plan.Unbroken
import VideoPlan.Proofs.Text.Mark

/-!
# Outlines of plans

The outline of a plan is its tree with what the plan shows of each operator: the kind, the operands as they are
printed, and the type of a function. The text of a plan has a line for each node of the outline in pre-order, two
blanks further in for each level, and a line for the type of a function directly below the line of the function.

The way back is in two steps. The lines tell the nodes with their depths, since keywords differ and start with no
blank (`eq_of_linesOf`). The depths tell the tree, since the nodes below a node are those that follow it and
lie deeper (`eq_of_preorderOfAll`).

Main statement: `text_determines_outline`.
-/

namespace VideoPlan

/-- What a plan shows of an operator: its kind, what is printed behind the keyword of the kind, and the type of a
function. -/
structure Operator.Shown where
  kind : OperatorKind
  operands : String
  udfType : Option String

/-- The tree of a plan, with what is shown of each operator. -/
inductive Outline
  | node (shown : Operator.Shown) (children : List Outline)

namespace Operator

/-- The type of a function to be created, if one is given. -/
def udfType? : Operator → Option String
  | .createUdf creation => creation.udfType
  | _ => none

/-- What the line of an operator says behind its keyword. -/
def operands (operator : Operator) : String :=
  String.ofList ((operator.lines.headD "").toList.drop operator.kind.name.toList.length)

/-- What plans show of an operator. -/
def shown (operator : Operator) : Shown :=
  ⟨operator.kind, operator.operands, operator.udfType?⟩

/-- So many blanks. -/
def blanks (n : Nat) : String :=
  String.ofList (List.replicate n ' ')

/-- The line of an operator at a depth: its keyword and operands behind two blanks for each level. -/
def Shown.line (depth : Nat) (shown : Shown) : String :=
  blanks (2 * depth) ++ (shown.kind.name ++ shown.operands)

/-- The line of a type below the line of its function, two blanks further in. -/
def typeLine (depth : Nat) (type : String) : String :=
  blanks (2 * depth + 2) ++ ("type: " ++ type)

/-- All lines of an operator at a depth. -/
def Shown.lines (depth : Nat) (shown : Shown) : List String :=
  shown.line depth :: (shown.udfType.map (typeLine depth)).toList

end Operator

namespace Plan

mutual

/-- The outline of a plan. -/
def outline : Plan → Outline
  | .node operator children => .node operator.shown (outlines children)

/-- The outlines of plans. -/
def outlines : List Plan → List Outline
  | [] => []
  | plan :: plans => plan.outline :: outlines plans

end

end Plan

namespace Outline

mutual

/-- The nodes of an outline in pre-order, each with its depth, if the outline lies at `depth`. -/
def preorder (depth : Nat) : Outline → List (Nat × Operator.Shown)
  | .node shown children => (depth, shown) :: preorderOfAll (depth + 1) children

/-- The nodes of outlines at the same depth. -/
def preorderOfAll (depth : Nat) : List Outline → List (Nat × Operator.Shown)
  | [] => []
  | outline :: outlines => outline.preorder depth ++ preorderOfAll depth outlines

end

/-- The lines of nodes, which are given with their depths. -/
def linesOf (entries : List (Nat × Operator.Shown)) : List String :=
  entries.flatMap fun entry => entry.2.lines entry.1

end Outline

open Operator (blanks typeLine)

/-! ## Lines of operators -/

namespace Operator

theorem toList_blanks (n : Nat) : (blanks n).toList = List.replicate n ' ' :=
  String.toList_ofList

theorem blanks_add (m n : Nat) : blanks (m + n) = blanks m ++ blanks n := by
  apply String.toList_inj.mp
  rw [String.toList_append, toList_blanks, toList_blanks, toList_blanks, List.replicate_append_replicate]

theorem join_replicate (depth : Nat) : String.join (List.replicate depth "  ") = blanks (2 * depth) := by
  induction depth with
  | zero => rfl
  | succ depth ih =>
    rw [List.replicate_succ, String.join_cons, ih, Nat.mul_succ, Nat.add_comm, blanks_add]
    rfl

theorem keyword_append {keyword line : String} (starts : keyword.toList <+: line.toList) :
    keyword ++ String.ofList (line.toList.drop keyword.toList.length) = line := by
  obtain ⟨rest, split⟩ := starts
  apply String.toList_inj.mp
  rw [String.toList_append, String.toList_ofList, ← split, List.drop_left]

/-- The first line of an operator starts with the keyword of its kind, and there is another one only for the type of
a function. -/
theorem lines_eq (operator : Operator) :
    operator.lines = (operator.kind.name ++ operator.operands) :: (operator.udfType?.map ("  type: " ++ ·)).toList := by
  have starts : operator.kind.name.toList <+: (operator.lines.headD "").toList := by
    cases operator <;> simp [lines, kind, OperatorKind.name]
  have first := keyword_append starts
  unfold operands
  rw [first]
  cases operator <;> rfl

/-- The lines of an operator in a plan are the lines of what is shown of it. -/
theorem map_indented_lines (operator : Operator) (depth : Nat) :
    operator.lines.map (Plan.indented depth) = operator.shown.lines depth := by
  have behind (type : String) : Plan.indented depth ("  type: " ++ type) = typeLine depth type := by
    unfold Plan.indented typeLine
    rw [join_replicate, blanks_add, String.append_assoc, show "  type: " = blanks 2 ++ "type: " from rfl,
      String.append_assoc]
  rw [lines_eq, List.map_cons]
  show Plan.indented depth (operator.kind.name ++ operator.operands) :: _ = operator.shown.line depth :: _
  congr 1
  · unfold Plan.indented Shown.line
    rw [join_replicate]
    rfl
  · show _ = (operator.udfType?.map (typeLine depth)).toList
    cases operator.udfType? with
    | none => rfl
    | some type =>
      show [Plan.indented depth ("  type: " ++ type)] = [typeLine depth type]
      rw [behind]

end Operator

namespace Plan

mutual

/-- The lines of a plan are those of its outline in pre-order. -/
theorem lines_eq_linesOf (depth : Nat) : ∀ plan : Plan,
    plan.lines depth = Outline.linesOf (plan.outline.preorder depth)
  | .node operator children => by
    rw [lines, Operator.map_indented_lines, linesOfAll_eq_linesOf (depth + 1) children]
    rfl

theorem linesOfAll_eq_linesOf (depth : Nat) : ∀ plans : List Plan,
    linesOfAll depth plans = Outline.linesOf (Outline.preorderOfAll depth (outlines plans))
  | [] => rfl
  | plan :: plans => by
    rw [linesOfAll, lines_eq_linesOf depth plan, linesOfAll_eq_linesOf depth plans, outlines,
      Outline.preorderOfAll, Outline.linesOf, Outline.linesOf, Outline.linesOf, List.flatMap_append]

end

mutual

/-- The outline has one entry for each node of the plan, in the same order. -/
theorem preorder_outline (depth : Nat) : ∀ plan : Plan,
    (plan.outline.preorder depth).map (·.2) = plan.nodes.map (·.operator.shown)
  | .node operator children => by
    rw [outline, Outline.preorder, nodes, List.map_cons, List.map_cons,
      preorderOfAll_outlines (depth + 1) children]
    rfl

theorem preorderOfAll_outlines (depth : Nat) : ∀ plans : List Plan,
    (Outline.preorderOfAll depth (outlines plans)).map (·.2) =
      (nodesOfAll plans).map (·.operator.shown)
  | [] => rfl
  | plan :: plans => by
    rw [outlines, Outline.preorderOfAll, nodesOfAll, List.map_append, List.map_append,
      preorder_outline depth plan, preorderOfAll_outlines depth plans]

end

end Plan

/-! ## From the lines to the nodes -/

namespace OperatorKind

/-- The keywords of lines with the kinds that they stand for. -/
def keywords : List (String × OperatorKind) :=
  [get, filter, project, insert, createTable, createUdf, loadData].map fun kind => (kind.name, kind)

/-- No keyword starts with another one, so a line tells its keyword. -/
theorem firstMark?_name_append (kind : OperatorKind) (behind : String) :
    Text.firstMark? keywords (kind.name ++ behind).toList = some (kind, behind.toList) := by
  rw [String.toList_append]
  apply Text.firstMark?_append (by decide)
  cases kind <;> decide

theorem name_append_inj {kind kind' : OperatorKind} {behind behind' : String}
    (same : kind.name ++ behind = kind'.name ++ behind') : kind = kind' ∧ behind = behind' := by
  have found := firstMark?_name_append kind behind
  rw [same, firstMark?_name_append, Option.some.injEq, Prod.mk.injEq] at found
  exact ⟨found.1.symm, String.toList_inj.mp found.2.symm⟩

/-- The line of a type has no keyword. -/
theorem type_ne_name_append (kind : OperatorKind) (type behind : String) :
    "type: " ++ type ≠ kind.name ++ behind := by
  intro same
  have none : Text.firstMark? keywords ("type: " ++ type).toList = none := by
    rw [String.toList_append]
    exact Text.firstMark?_eq_none (by decide) type.toList
  rw [same, firstMark?_name_append] at none
  cases none

end OperatorKind

/-- The text does not start with a blank. -/
def Flush (text : String) : Prop :=
  text.toList.head? ≠ some ' '

theorem flush_name_append (kind : OperatorKind) (behind : String) : Flush (kind.name ++ behind) := by
  unfold Flush
  rw [String.toList_append]
  cases kind <;> simp [OperatorKind.name]

theorem flush_type (type : String) : Flush ("type: " ++ type) := by
  unfold Flush
  rw [String.toList_append]
  simp

theorem eq_of_replicate_append {m n : Nat} {cs cs' : List Char} (flush : cs.head? ≠ some ' ')
    (flush' : cs'.head? ≠ some ' ') (same : List.replicate m ' ' ++ cs = List.replicate n ' ' ++ cs') :
    m = n ∧ cs = cs' := by
  induction m generalizing n with
  | zero =>
    cases n with
    | zero => exact ⟨rfl, same⟩
    | succ n =>
      rw [List.replicate_zero, List.nil_append] at same
      rw [same] at flush
      exact absurd rfl flush
  | succ m ih =>
    cases n with
    | zero =>
      rw [List.replicate_zero, List.nil_append] at same
      rw [← same] at flush'
      exact absurd rfl flush'
    | succ n =>
      rw [List.replicate_succ, List.replicate_succ, List.cons_append, List.cons_append, List.cons.injEq] at same
      obtain ⟨count, behind⟩ := ih same.2
      exact ⟨congrArg (· + 1) count, behind⟩

/-- Blanks before a text that starts with none can be counted. -/
theorem blanks_append_inj {m n : Nat} {text text' : String} (flush : Flush text) (flush' : Flush text')
    (same : blanks m ++ text = blanks n ++ text') : m = n ∧ text = text' := by
  have letters := congrArg String.toList same
  rw [String.toList_append, String.toList_append, Operator.toList_blanks, Operator.toList_blanks] at letters
  obtain ⟨count, behind⟩ := eq_of_replicate_append flush flush' letters
  exact ⟨count, String.toList_inj.mp behind⟩

namespace Operator

theorem Shown.line_inj {depth depth' : Nat} {shown shown' : Shown}
    (same : shown.line depth = shown'.line depth') :
    depth = depth' ∧ shown.kind = shown'.kind ∧ shown.operands = shown'.operands := by
  obtain ⟨count, behind⟩ := blanks_append_inj (flush_name_append _ _) (flush_name_append _ _) same
  exact ⟨by omega, OperatorKind.name_append_inj behind⟩

theorem typeLine_inj {depth : Nat} {type type' : String} (same : typeLine depth type = typeLine depth type') :
    type = type' := by
  obtain ⟨-, behind⟩ := blanks_append_inj (flush_type type) (flush_type type') same
  have letters := congrArg String.toList behind
  rw [String.toList_append, String.toList_append, List.append_cancel_left_eq] at letters
  exact String.toList_inj.mp letters

theorem typeLine_ne_line (depth depth' : Nat) (type : String) (shown : Shown) :
    typeLine depth type ≠ shown.line depth' := by
  intro same
  obtain ⟨-, behind⟩ := blanks_append_inj (flush_type type) (flush_name_append _ _) same
  exact OperatorKind.type_ne_name_append _ _ _ behind

end Operator

namespace Outline

theorem linesOf_cons (entry : Nat × Operator.Shown) (entries : List (Nat × Operator.Shown)) :
    linesOf (entry :: entries) =
      entry.2.line entry.1 ::
        ((entry.2.udfType.map (typeLine entry.1)).toList ++ linesOf entries) :=
  rfl

/-- No node starts with the line of a type. -/
theorem typeLine_cons_ne (depth : Nat) (type : String) (lines : List String)
    (entries : List (Nat × Operator.Shown)) : typeLine depth type :: lines ≠ linesOf entries := by
  intro same
  cases entries with
  | nil => cases same
  | cons entry entries =>
    rw [linesOf_cons, List.cons.injEq] at same
    exact Operator.typeLine_ne_line _ _ _ _ same.1

/-- The lines tell the nodes and their depths. -/
theorem eq_of_linesOf {entries entries' : List (Nat × Operator.Shown)}
    (same : linesOf entries = linesOf entries') : entries = entries' := by
  induction entries generalizing entries' with
  | nil =>
    cases entries' with
    | nil => rfl
    | cons entry' entries' => cases same
  | cons entry entries ih =>
    cases entries' with
    | nil => cases same
    | cons entry' entries' =>
      rw [linesOf_cons, linesOf_cons, List.cons.injEq] at same
      obtain ⟨depth, ⟨kind, operands, type⟩⟩ := entry
      obtain ⟨depth', ⟨kind', operands', type'⟩⟩ := entry'
      obtain ⟨first, others⟩ := same
      obtain ⟨rfl, rfl, rfl⟩ := Operator.Shown.line_inj first
      -- the lines behind the first one start with a type on both sides or on neither
      cases type with
      | none =>
        cases type' with
        | none =>
          rw [ih others]
        | some type' => exact absurd others.symm (typeLine_cons_ne depth type' _ _)
      | some type =>
        cases type' with
        | none => exact absurd others (typeLine_cons_ne depth type _ _)
        | some type' =>
          obtain ⟨types, behind⟩ := List.cons.inj others
          rw [ih behind, Operator.typeLine_inj types]

/-! ## From the nodes to the tree -/

/-- The entries start with one less deep than `depth`, if there are any. -/
def EndsBefore (depth : Nat) (entries : List (Nat × Operator.Shown)) : Prop :=
  ∀ entry ∈ entries.head?, entry.1 < depth

/-- Behind the nodes below a node at `depth` come others at this depth, or less deep ones. -/
theorem endsBefore_append {depth : Nat} {rest : List (Nat × Operator.Shown)} (ends : EndsBefore depth rest)
    (outlines : List Outline) : EndsBefore (depth + 1) (preorderOfAll depth outlines ++ rest) := by
  intro entry member
  cases outlines with
  | nil => exact Nat.lt_succ_of_lt (ends entry member)
  | cons outline outlines =>
    obtain ⟨shown, children⟩ := outline
    obtain rfl := Option.some.inj member
    exact Nat.lt_succ_self depth

/-- The nodes with their depths tell the tree, whatever less deep nodes follow. The recursion is on the outlines, into
the children of the first one and to the outlines next to it. -/
theorem eq_of_preorderOfAll {depth : Nat} {rest rest' : List (Nat × Operator.Shown)} (ends : EndsBefore depth rest)
    (ends' : EndsBefore depth rest') : ∀ {outlines outlines' : List Outline},
    preorderOfAll depth outlines ++ rest = preorderOfAll depth outlines' ++ rest' →
      outlines = outlines' ∧ rest = rest'
  | [], [], same => ⟨rfl, same⟩
  | [], .node shown' children' :: outlines', same => by
    have starts : rest = (depth, shown') :: _ := same
    have before : depth < depth := ends (depth, shown') (by rw [starts]; rfl)
    exact absurd before (Nat.lt_irrefl depth)
  | .node shown children :: outlines, [], same => by
    have starts : (depth, shown) :: _ = rest' := same
    have before : depth < depth := ends' (depth, shown) (by rw [← starts]; rfl)
    exact absurd before (Nat.lt_irrefl depth)
  | .node shown children :: outlines, .node shown' children' :: outlines', same => by
    simp only [preorderOfAll, preorder, List.cons_append, List.append_assoc, List.cons.injEq, Prod.mk.injEq,
      true_and] at same
    obtain ⟨rfl, below⟩ := same
    -- behind the children come the outlines next to this one, which are less deep
    obtain ⟨rfl, next⟩ :=
      eq_of_preorderOfAll (endsBefore_append ends outlines) (endsBefore_append ends' outlines') below
    obtain ⟨rfl, behind⟩ := eq_of_preorderOfAll ends ends' next
    exact ⟨rfl, behind⟩

theorem eq_of_preorder {outline outline' : Outline} (same : outline.preorder 0 = outline'.preorder 0) :
    outline = outline' := by
  have ends : EndsBefore 0 [] := by
    intro entry member
    cases member
  have both : preorderOfAll 0 [outline] ++ [] = preorderOfAll 0 [outline'] ++ [] := by
    simp only [preorderOfAll, same]
  exact (List.cons.inj (eq_of_preorderOfAll ends ends both).1).1

end Outline

/-! ## Texts of plans -/

namespace Plan

theorem splitOn_text {plan : Plan} (unbroken : plan.Unbroken) :
    plan.text.toList.splitOn '\n' = (Outline.linesOf (plan.outline.preorder 0)).map String.toList ++ [[]] := by
  rw [← lines_eq_linesOf]
  exact Text.splitOn_lines (unbroken_lines 0 plan unbroken)

/-- The text of a plan without line breaks in its names and texts has one line for each node in pre-order, which
starts behind two blanks for each level with the keyword of the operator, and the line of a type directly below that
of its function. Two such plans have the same text just if they have the same outline: trees of the same shape, with
the same kinds of operators and the same operands and types printed at every place. -/
theorem text_determines_outline (plan : Plan) (unbroken : plan.Unbroken) :
    plan.text.toList.splitOn '\n' = (Outline.linesOf (plan.outline.preorder 0)).map String.toList ++ [[]] ∧
      (plan.outline.preorder 0).map (·.2) = plan.nodes.map (·.operator.shown) ∧
      ∀ plan' : Plan, plan'.Unbroken → (plan'.text = plan.text ↔ plan'.outline = plan.outline) := by
  refine ⟨splitOn_text unbroken, preorder_outline 0 plan, ?_⟩
  intro plan' unbroken'
  constructor
  · intro same
    have lines := splitOn_text unbroken'
    rw [same, splitOn_text unbroken, List.append_cancel_right_eq] at lines
    have nodes := Outline.eq_of_linesOf ((List.map_inj_right fun _ _ => String.toList_inj.mp).mp lines)
    exact (Outline.eq_of_preorder nodes).symm
  · intro same
    unfold text
    rw [lines_eq_linesOf, lines_eq_linesOf, same]

/-- A function whose type reads like the line of an operator, over a table of which only the number varies: the texts
are the same, and are not read as a plan of three nodes. -/
theorem text_determines_outline_function :
    let table : TableRef := { table := "t" }
    let function : UdfCreation := { name := "f", implementation := "f.rs", udfType := some "Get: t [a]" }
    let dataset : Dataset :=
      { id := 1, name := "t", fileUrl := "t", identifierColumn := "id", isVideo := false,
        columns := [{ name := "a", type := { base := .integer } }] }
    let plan : Plan := .node (.createUdf function) [.leaf (.get table dataset)]
    let plan' : Plan := .node (.createUdf function) [.leaf (.get table { dataset with id := 2 })]
    plan.Unbroken ∧ plan'.Unbroken ∧ plan.text = plan'.text ∧
      plan.text.toList.splitOn '\n' =
        ["CreateUdf: f input=() output=() impl=f.rs", "  type: Get: t [a]", "  Get: t [a]"].map String.toList ++ [[]] := by
  intro table function dataset plan plan'
  have unbroken : plan.Unbroken := by decide
  have unbroken' : plan'.Unbroken := by decide
  obtain ⟨lines, -, texts⟩ := text_determines_outline plan unbroken
  have shown : Outline.linesOf (plan.outline.preorder 0) =
      ["CreateUdf: f input=() output=() impl=f.rs", "  type: Get: t [a]", "  Get: t [a]"] := by decide +kernel
  rw [shown] at lines
  have same : plan'.text = plan.text := (texts plan' unbroken').mpr rfl
  exact ⟨unbroken, unbroken', same.symm, lines⟩

end Plan

end VideoPlan
