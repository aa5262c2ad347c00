import ContentForms.Proofs.Syntax.Padding

namespace ContentForms.Syntax

open Node

structure SameFace (x y : Node) : Prop where
  kind : y.kind = x.kind
  named : y.named = x.named
  role : y.role = x.role

-- `y` is `x` with the child `old` exchanged for `new`, in any layout.
structure Exchange (x y : Node) (before : List Node) (old new : Node) (after : List Node) :
    Prop extends SameFace x y where
  children : x.children = before ++ old :: after
  exchanged : y.children = before ++ new :: after

structure PartExchange (part : String) (x y old new : Node) : Prop where
  exchange : ∃ before after, Exchange x y before old new after ∧
    ∀ node ∈ before, node.role ≠ some part
  role_old : old.role = some part
  role_new : new.role = some part

-- A change to what stands inside all wrappers.
inductive Unwrapped (change : Node → Node → Prop) : Node → Node → Prop where
  | bare {x y : Node} : x.kind ∉ wrapperKinds → change x y → Unwrapped change x y
  | wrapper {x y inner changed : Node} {before after : List Node} :
      x.kind ∈ wrapperKinds → Exchange x y before inner changed after →
        (∀ node ∈ before, node.isOperand = false) → inner.isOperand = true →
        Unwrapped change inner changed → Unwrapped change x y

variable {x y old new : Node} {before after : List Node}

theorem SameFace.isOperand_eq (h : SameFace x y) : y.isOperand = x.isOperand := by
  simp only [isOperand, isComment, h.kind, h.named]

namespace Exchange

-- The child under a part is the exchanged one, or it is the same as before.
theorem child?_cases (h : Exchange x y before old new after) (hr : new.role = old.role)
    (part : String) :
    y.child? part = x.child? part ∨
      old.role = some part ∧ x.child? part = some old ∧ y.child? part = some new := by
  unfold child?
  rw [h.children, h.exchanged, List.find?_append, List.find?_append, List.find?_cons,
    List.find?_cons, hr]
  cases before.find? fun child => child.role = some part with
  | some found => exact .inl rfl
  | none =>
      by_cases ho : old.role = some part
      · exact .inr ⟨ho, by simp [ho], by simp [ho]⟩
      · exact .inl (by simp [ho])

private theorem unwrapFirst_kind (hf : SameFace old new)
    (hu : new.unwrap.map kind = old.unwrap.map kind) (before after : List Node) :
    (unwrapFirst (before ++ new :: after)).map kind =
      (unwrapFirst (before ++ old :: after)).map kind := by
  induction before with
  | nil =>
      simp only [List.nil_append, unwrapFirst, hf.isOperand_eq]
      split
      · exact hu
      · rfl
  | cons node rest ih =>
      simp only [List.cons_append, unwrapFirst]
      split
      · rfl
      · exact ih

-- If the new child unwraps to the same kind as the old one, so do the nodes around them.
theorem unwrap_kind (h : Exchange x y before old new after) (hf : SameFace old new)
    (hu : new.unwrap.map kind = old.unwrap.map kind) :
    y.unwrap.map kind = x.unwrap.map kind := by
  by_cases hk : x.kind ∈ wrapperKinds
  · rw [unwrap_of_mem hk, unwrap_of_mem (h.kind ▸ hk), h.children, h.exchanged]
    exact unwrapFirst_kind hf hu before after
  · rw [unwrap_of_notMem hk, unwrap_of_notMem (h.kind ▸ hk), Option.map_some, Option.map_some,
      h.kind]

end Exchange

namespace PartExchange

variable {part : String}

theorem face (h : PartExchange part x y old new) : SameFace x y := by
  obtain ⟨_, _, he, -⟩ := h.exchange
  exact he.toSameFace

theorem child?_part (h : PartExchange part x y old new) :
    x.child? part = some old ∧ y.child? part = some new := by
  obtain ⟨before, after, he, hb⟩ := h.exchange
  have hn : before.find? (fun child => child.role = some part) = none := by
    simpa using hb
  unfold child?
  rw [he.children, he.exchanged, List.find?_append, List.find?_append, hn]
  simp [h.role_old, h.role_new]

theorem child?_other (h : PartExchange part x y old new) {other : String} (hne : part ≠ other) :
    y.child? other = x.child? other := by
  obtain ⟨before, after, he, -⟩ := h.exchange
  obtain heq | ⟨ho, -⟩ := he.child?_cases (h.role_new.trans h.role_old.symm) other
  · exact heq
  · exact absurd (Option.some.inj (h.role_old.symm.trans ho)) hne

-- Any node that takes over the part can come in its place.
theorem exists_of_child? (ho : x.child? part = some old) (hn : new.role = some part) :
    ∃ y, PartExchange part x y old new := by
  obtain ⟨hr, before, after, hc, hb⟩ := List.find?_eq_some_iff_append.mp ho
  have he : Exchange x { x with children := before ++ new :: after } before old new after :=
    ⟨⟨rfl, rfl, rfl⟩, hc, rfl⟩
  refine ⟨_, ⟨before, after, he, fun node hm => ?_⟩, by simpa using hr, hn⟩
  simpa using hb node hm

end PartExchange

namespace Unwrapped

variable {change : Node → Node → Prop} (hface : ∀ x y, change x y → SameFace x y)

include hface

theorem face (h : Unwrapped change x y) : SameFace x y := by
  cases h with
  | bare _ hc => exact hface _ _ hc
  | wrapper _ he _ _ _ => exact he.toSameFace

-- Unwrapping goes down the way that the change came up.
theorem unwrap_eq (h : Unwrapped change x y) :
    ∃ inner changed, x.unwrap = some inner ∧ y.unwrap = some changed ∧ change inner changed := by
  induction h with
  | @bare x y hk hc =>
      have hky : y.kind ∉ wrapperKinds := (hface x y hc).kind ▸ hk
      exact ⟨x, y, unwrap_of_notMem hk, unwrap_of_notMem hky, hc⟩
  | @wrapper x y inner changed before after hk he hb hi hrest ih =>
      obtain ⟨deep, deep', hx, hy, hc⟩ := ih
      have hi' : changed.isOperand = true := (hrest.face hface).isOperand_eq.trans hi
      refine ⟨deep, deep', ?_, ?_, hc⟩
      · rw [unwrap_of_mem hk, he.children, unwrapFirst_append hb]
        simpa [unwrapFirst, hi] using hx
      · rw [unwrap_of_mem (he.kind ▸ hk), he.exchanged, unwrapFirst_append hb]
        simpa [unwrapFirst, hi'] using hy

end Unwrapped

-- The operand that unwrapping goes into.
private theorem unwrapFirst_eq_some {nodes : List Node} {inner : Node}
    (h : unwrapFirst nodes = some inner) :
    ∃ before operand after, nodes = before ++ operand :: after ∧
      (∀ node ∈ before, node.isOperand = false) ∧ operand.isOperand = true ∧
      operand.unwrap = some inner := by
  induction nodes with
  | nil => simp [unwrapFirst] at h
  | cons node rest ih =>
      rw [unwrapFirst] at h
      by_cases ho : node.isOperand = true
      · rw [if_pos ho] at h
        exact ⟨[], node, rest, rfl, by simp, ho, h⟩
      · rw [if_neg ho] at h
        obtain ⟨before, operand, after, rfl, hb, hoperand⟩ := ih h
        exact ⟨node :: before, operand, after, rfl, by simpa [ho] using hb, hoperand⟩

-- What stands inside all wrappers can be changed there.
theorem Unwrapped.exists_of_unwrap {change : Node → Node → Prop} {inner changed : Node}
    (hc : change inner changed) (x : Node) (h : x.unwrap = some inner) :
    ∃ y, Unwrapped change x y := by
  by_cases hk : x.kind ∈ wrapperKinds
  · rw [unwrap_of_mem hk] at h
    obtain ⟨before, operand, after, hx, hb, ho, hu⟩ := unwrapFirst_eq_some h
    have hsize : sizeOf operand < sizeOf x := sizeOf_lt_of_mem_children (by simp [hx])
    obtain ⟨operand', hrest⟩ := exists_of_unwrap hc operand hu
    exact ⟨{ x with children := before ++ operand' :: after },
      .wrapper hk ⟨⟨rfl, rfl, rfl⟩, hx, rfl⟩ hb ho hrest⟩
  · rw [unwrap_of_notMem hk] at h
    exact ⟨changed, .bare hk (Option.some.inj h ▸ hc)⟩
termination_by sizeOf x

end ContentForms.Syntax
