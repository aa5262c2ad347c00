import ContentForms.Proofs.Syntax.Preorder
import ContentForms.Syntax.Chain
import Mathlib.Data.List.Forall2
import Mathlib.Logic.Relation

namespace ContentForms.Syntax

open Declaration (Quiet)

-- The places of a tree where a node is read by its text: the name of a variable, the key of a pair,
-- the property of a member access.
def ReadByText (parent : String) (role : Option String) : Prop :=
  (parent, role) ∈ [("variable_declarator", some "name"), ("pair", some "key"),
    ("member_expression", some "property")]

instance (parent : String) (role : Option String) : Decidable (ReadByText parent role) :=
  inferInstanceAs (Decidable (_ ∈ _))

-- The places of a tree that an expression is read from, and where a wrapper may come around it.
def HoldsExpression (parent : String) (role : Option String) : Prop :=
  parent = "arguments" ∨ parent ∈ wrapperKinds ∨
    (role = some "value" ∧ parent ∈ ["variable_declarator", "export_statement", "pair"]) ∨
    (role = some "function" ∧ parent = "call_expression") ∨
    (role = some "object" ∧ parent = "member_expression")

instance (parent : String) (role : Option String) : Decidable (HoldsExpression parent role) :=
  inferInstanceAs (Decidable (_ ∨ _))

structure LeafComment (node : Node) : Prop where
  kind : node.kind = "comment"
  role : node.role = none
  children : node.children = []

-- A wrapper with the given node as its first operand. What else it holds declares nothing.
structure Encloses (wrapper inner : Node) : Prop where
  kind : wrapper.kind ∈ wrapperKinds
  named : wrapper.named = true
  split : ∃ before after, wrapper.children = before ++ inner :: after ∧
    (∀ node ∈ before, node.isOperand = false) ∧ ∀ node ∈ before ++ after, Quiet node

inductive Insertion : Node → Node → Prop where
  | comment (node comment : Node) (before after : List Node) (hc : LeafComment comment) :
      Insertion { node with children := before ++ after }
        { node with children := before ++ comment :: after }
  | wrapper (node wrapper inner : Node) (innerRole : Option String) (before after : List Node)
      (hi : inner.isOperand = true) (hp : HoldsExpression node.kind inner.role)
      (hr : wrapper.role = inner.role) (he : Encloses wrapper { inner with role := innerRole }) :
      Insertion { node with children := before ++ inner :: after }
        { node with children := before ++ wrapper :: after }
  | layout (node : Node) (text : Option String) (row offset : Nat)
      (hs : node.kind = "string" → text = node.text) : Insertion node { node with text, row, offset }
  | inside (node child changed : Node) (before after : List Node) (hc : Insertion child changed)
      (ht : ReadByText node.kind child.role → changed.text = child.text) :
      Insertion { node with children := before ++ child :: after }
        { node with children := before ++ changed :: after }

mutual

-- `y` is `x` with comments and wrappers below it, in any layout.
inductive Padded : Node → Node → Prop where
  | node {x y : Node} (kind : y.kind = x.kind) (named : y.named = x.named)
      (text : x.kind = "string" → y.text = x.text)
      (children : PaddedAll x.kind x.children y.children) : Padded x y

inductive PaddedAll : String → List Node → List Node → Prop where
  | nil {parent : String} : PaddedAll parent [] []
  | comment {parent : String} {comment : Node} {xs ys : List Node} (hc : LeafComment comment)
      (rest : PaddedAll parent xs ys) : PaddedAll parent xs (comment :: ys)
  | child {parent : String} {x y : Node} {xs ys : List Node} (role : y.role = x.role)
      (first : Covered parent x y) (rest : PaddedAll parent xs ys) :
      PaddedAll parent (x :: xs) (y :: ys)

-- A child of a node of the given kind, which may have come to stand in wrappers.
inductive Covered : String → Node → Node → Prop where
  | bare {parent : String} {x y : Node}
      (text : ReadByText parent x.role → y.text = x.text)
      (padded : Padded x y) : Covered parent x y
  | wrapped {parent : String} {x y wrapper : Node} (operand : x.isOperand = true)
      (place : HoldsExpression parent x.role) (inner : Covered wrapper.kind x y)
      (encloses : Encloses wrapper y) : Covered parent x wrapper

end

namespace Node

theorem unwrap_of_mem {node : Node} (h : node.kind ∈ wrapperKinds) :
    node.unwrap = unwrapFirst node.children := by
  cases node
  simp only at h
  simp [unwrap, h]

theorem unwrap_of_notMem {node : Node} (h : node.kind ∉ wrapperKinds) :
    node.unwrap = some node := by
  cases node
  simp only at h
  simp [unwrap, h]

theorem unwrapFirst_append {before nodes : List Node}
    (h : ∀ node ∈ before, node.isOperand = false) :
    unwrapFirst (before ++ nodes) = unwrapFirst nodes := by
  induction before with
  | nil => rfl
  | cons node rest ih =>
      rw [List.forall_mem_cons] at h
      simp [unwrapFirst, h.1, ih h.2]

end Node

open Node

theorem Encloses.isOperand {wrapper inner : Node} (h : Encloses wrapper inner) :
    wrapper.isOperand = true := by
  have hk : wrapper.kind ≠ "comment" := by
    intro he
    have hm := h.kind
    rw [he] at hm
    revert hm
    decide
  simp [Node.isOperand, Node.isComment, h.named, hk]

theorem Encloses.unwrap_eq {wrapper inner : Node} (h : Encloses wrapper inner)
    (hi : inner.isOperand = true) : wrapper.unwrap = inner.unwrap := by
  obtain ⟨before, after, hc, hb, -⟩ := h.split
  rw [unwrap_of_mem h.kind, hc, unwrapFirst_append hb]
  simp [unwrapFirst, hi]

theorem Padded.isOperand_eq {x y : Node} (h : Padded x y) : y.isOperand = x.isOperand := by
  obtain ⟨hk, hn, -, -⟩ := h
  simp [Node.isOperand, Node.isComment, hk, hn]

theorem Covered.isOperand_eq {parent : String} {x y : Node} (h : Covered parent x y) :
    y.isOperand = x.isOperand := by
  cases h with
  | bare _ padded => exact padded.isOperand_eq
  | wrapped operand _ _ encloses => rw [encloses.isOperand, operand]

theorem LeafComment.isOperand {node : Node} (h : LeafComment node) : node.isOperand = false := by
  simp [Node.isOperand, Node.isComment, h.kind]

-- Two expressions are alike when inside all wrappers they are the same up to padding.
def Alike (x y : Node) : Prop := Option.Rel Padded x.unwrap y.unwrap

mutual

theorem Padded.alike {x y : Node} : Padded x y → Alike x y
  | .node kind named text children => by
      unfold Alike
      by_cases hk : x.kind ∈ wrapperKinds
      · rw [unwrap_of_mem hk, unwrap_of_mem (kind ▸ hk)]
        exact children.unwrapFirst
      · rw [unwrap_of_notMem hk, unwrap_of_notMem (kind ▸ hk)]
        exact .some (.node kind named text children)

theorem PaddedAll.unwrapFirst {parent : String} {xs ys : List Node} :
    PaddedAll parent xs ys → Option.Rel Padded (unwrapFirst xs) (unwrapFirst ys)
  | .nil => .none
  | .comment hc rest => by
      simpa [Node.unwrapFirst, hc.isOperand] using rest.unwrapFirst
  | .child _ first rest => by
      simp only [Node.unwrapFirst, first.isOperand_eq]
      split
      · exact first.alike
      · exact rest.unwrapFirst

theorem Covered.alike {parent : String} {x y : Node} : Covered parent x y → Alike x y
  | .bare _ padded => padded.alike
  | .wrapped operand _ inner encloses => by
      have hi := inner.isOperand_eq.trans operand
      unfold Alike
      rw [encloses.unwrap_eq hi]
      exact inner.alike

end

theorem PaddedAll.find?_role {parent : String} (role : String) {xs ys : List Node} :
    PaddedAll parent xs ys →
      Option.Rel (fun a b => a.role = some role ∧ Covered parent a b)
        (xs.find? fun child => child.role = some role)
        (ys.find? fun child => child.role = some role)
  | .nil => .none
  | .comment hc rest => by
      simpa [List.find?_cons, hc.role] using rest.find?_role role
  | .child (x := x) hr first rest => by
      by_cases h : x.role = some role
      · simp only [List.find?_cons, hr, h, decide_true]
        exact .some ⟨h, first⟩
      · simpa [List.find?_cons, hr, h] using rest.find?_role role

-- Operands are counted in the same way, wrapped or not.
theorem PaddedAll.operands {parent : String} {xs ys : List Node} :
    PaddedAll parent xs ys →
      List.Forall₂ Alike (xs.filter Node.isOperand) (ys.filter Node.isOperand)
  | .nil => .nil
  | .comment hc rest => by simpa [hc.isOperand] using rest.operands
  | .child (x := x) _ first rest => by
      have hr := rest.operands
      by_cases h : x.isOperand = true
      · simpa [List.filter_cons, first.isOperand_eq, h] using ⟨first.alike, hr⟩
      · simpa [List.filter_cons, first.isOperand_eq, h] using hr

mutual

theorem Padded.refl : (x : Node) → Padded x x
  | ⟨kind, _, _, _, _, _, children⟩ => .node rfl rfl (fun _ => rfl) (PaddedAll.refl kind children)

theorem PaddedAll.refl (parent : String) : (xs : List Node) → PaddedAll parent xs xs
  | [] => .nil
  | x :: xs => .child rfl (.bare (fun _ => rfl) (Padded.refl x)) (PaddedAll.refl parent xs)

end

theorem PaddedAll.append_left {parent : String} {xs ys : List Node} (before : List Node)
    (h : PaddedAll parent xs ys) : PaddedAll parent (before ++ xs) (before ++ ys) := by
  induction before with
  | nil => exact h
  | cons x before ih => exact .child rfl (.bare (fun _ => rfl) (.refl x)) ih

-- A changed node keeps its part in the node above it.
theorem Insertion.padded {x y : Node} (h : Insertion x y) : Padded x y ∧ y.role = x.role := by
  induction h with
  | comment node comment before after hc =>
      refine ⟨.node rfl rfl (fun _ => rfl) ?_, rfl⟩
      exact (PaddedAll.comment hc (.refl _ after)).append_left before
  | wrapper node wrapper inner innerRole before after hi hp hr he =>
      refine ⟨.node rfl rfl (fun _ => rfl) ?_, rfl⟩
      have hinner : Covered wrapper.kind inner { inner with role := innerRole } :=
        .bare (fun _ => rfl) (.node rfl rfl (fun _ => rfl) (.refl _ _))
      exact (PaddedAll.child hr (.wrapped hi hp hinner he) (.refl _ after)).append_left before
  | layout node text row offset hs => exact ⟨.node rfl rfl hs (.refl _ _), rfl⟩
  | inside node child changed before after _ ht ih =>
      obtain ⟨hp, hr⟩ := ih
      refine ⟨.node rfl rfl (fun _ => rfl) ?_, rfl⟩
      exact (PaddedAll.child hr (.bare ht hp) (.refl _ after)).append_left before

end ContentForms.Syntax
