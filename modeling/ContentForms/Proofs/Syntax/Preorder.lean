import ContentForms.Declaration

namespace ContentForms

namespace Syntax.Node

theorem upcoming_of_turn?_none {stack : Array Node} (h : turn? stack = none) :
    upcoming stack = [] := by
  rw [turn?, Option.map_eq_none_iff, Array.back?_eq_none_iff] at h
  rw [h]
  rfl

theorem drain_eq_upcoming (stack : Array Node) : drain stack = upcoming stack := by
  fun_induction drain stack with
  | case1 stack h => rw [upcoming_of_turn?_none h]
  | case2 stack node rest h ih => rw [upcoming_of_turn? h, ih]

theorem upcoming_stacked_empty (nodes : List Node) :
    upcoming (stacked #[] nodes) = preorderAll nodes := by
  rw [upcoming_stacked]
  exact List.append_nil _

theorem walkFrom_eq_preorderAll (nodes : List Node) : walkFrom nodes = preorderAll nodes := by
  rw [walkFrom, drain_eq_upcoming, upcoming_stacked_empty]

theorem walk_eq_preorder (root : Node) : root.walk = root.preorder := by
  rw [walk, walkFrom_eq_preorderAll]
  simp [preorderAll]

theorem mem_preorderAll {inner : Node} {nodes : List Node} :
    inner ∈ preorderAll nodes ↔ ∃ node ∈ nodes, inner ∈ node.preorder := by
  induction nodes with
  | nil => simp [preorderAll]
  | cons node rest ih => simp [preorderAll, ih]

theorem self_mem_preorder (node : Node) : node ∈ node.preorder := by
  rw [preorder_eq]
  exact List.mem_cons_self

theorem mem_preorder_of_mem_children {inner child node : Node} (hc : child ∈ node.children)
    (hi : inner ∈ child.preorder) : inner ∈ node.preorder := by
  rw [preorder_eq]
  exact List.mem_cons_of_mem _ (mem_preorderAll.mpr ⟨child, hc, hi⟩)

end Syntax.Node

namespace Declaration

open Syntax Node

def Quiet (node : Node) : Prop :=
  ∀ inner ∈ node.preorder,
    inner.kind ≠ "variable_declarator" ∧ inner.kind ≠ "export_statement"

theorem quiet_iff {node : Node} :
    Quiet node ↔ (node.kind ≠ "variable_declarator" ∧ node.kind ≠ "export_statement") ∧
      ∀ child ∈ node.children, Quiet child := by
  simp only [Quiet, preorder_eq node, List.forall_mem_cons, mem_preorderAll]
  constructor
  · rintro ⟨hk, hc⟩
    exact ⟨hk, fun child hm inner hi => hc inner ⟨child, hm, hi⟩⟩
  · rintro ⟨hk, hc⟩
    exact ⟨hk, fun inner ⟨child, hm, hi⟩ => hc child hm inner hi⟩

section FirstFound

variable (kind : String) (reader : Node → Option Node)

theorem firstFound?_append (nodes more : List Node) :
    firstFound? kind reader (nodes ++ more) =
      (firstFound? kind reader nodes).or (firstFound? kind reader more) :=
  List.findSome?_append

-- The node itself comes first, then what is below it.
theorem firstFound?_preorder (node : Node) :
    firstFound? kind reader node.preorder =
      (if node.kind = kind then reader node else none).or
        (firstFound? kind reader (preorderAll node.children)) := by
  rw [preorder_eq, firstFound?, List.findSome?_cons]
  cases if node.kind = kind then reader node else none <;> rfl

theorem firstFound?_preorderAll_cons (node : Node) (rest : List Node) :
    firstFound? kind reader (preorderAll (node :: rest)) =
      (firstFound? kind reader node.preorder).or (firstFound? kind reader (preorderAll rest)) := by
  rw [preorderAll, firstFound?_append]

theorem firstFound?_preorderAll_append (nodes more : List Node) :
    firstFound? kind reader (preorderAll (nodes ++ more)) =
      (firstFound? kind reader (preorderAll nodes)).or
        (firstFound? kind reader (preorderAll more)) := by
  rw [preorderAll_append, firstFound?_append]

-- The one among the given nodes in which the search ends.
theorem exists_split_of_firstFound? {nodes : List Node} {object : Node}
    (h : firstFound? kind reader (preorderAll nodes) = some object) :
    ∃ before node after, nodes = before ++ node :: after ∧
      firstFound? kind reader (preorderAll before) = none ∧
      firstFound? kind reader node.preorder = some object := by
  induction nodes with
  | nil => simp [preorderAll, firstFound?] at h
  | cons node rest ih =>
      rw [firstFound?_preorderAll_cons] at h
      cases hf : firstFound? kind reader node.preorder with
      | some found =>
          rw [hf, Option.some_or] at h
          exact ⟨[], node, rest, rfl, rfl, hf.trans h⟩
      | none =>
          rw [hf, Option.none_or] at h
          obtain ⟨before, inner, after, rfl, hb, hi⟩ := ih h
          refine ⟨node :: before, inner, after, rfl, ?_, hi⟩
          rw [firstFound?_preorderAll_cons, hf, hb, Option.none_or]

theorem firstFound?_of_quiet {nodes : List Node} (hn : ∀ node ∈ nodes, Quiet node)
    (hk : kind = "variable_declarator" ∨ kind = "export_statement") :
    firstFound? kind reader (preorderAll nodes) = none := by
  refine List.findSome?_eq_none_iff.mpr fun inner hi => ?_
  obtain ⟨node, hm, hi⟩ := mem_preorderAll.mp hi
  have hq := hn node hm inner hi
  rcases hk with rfl | rfl
  · simp [hq.1]
  · simp [hq.2]

end FirstFound

theorem locate?_eq (root : Node) :
    locate? root = (firstFound? "variable_declarator" ofDeclarator? root.preorder).or
      (firstFound? "export_statement" ofExport? root.preorder) := by
  rw [locate?, walk_eq_preorder]
  cases firstFound? "variable_declarator" ofDeclarator? root.preorder <;> rfl

end Declaration

end ContentForms
