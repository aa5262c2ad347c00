import ContentForms.Syntax.Shape

namespace ContentForms.Syntax

-- A link of a chain: the method's name and the call.
structure Link where
  method : String
  call : Node

namespace Node

-- The outermost link of an expression, and what its method is called on.
def link? (node : Node) : Option (Link × Node) :=
  match node.asCall? with
  | none => none
  | some call =>
      match (call.child? "function").bind memberParts? with
      | none => none
      | some (method, receiver) => some (⟨method, call⟩, receiver)

theorem link?_parts {link : Link} {receiver node : Node} (h : node.link? = some (link, receiver)) :
    node.asCall? = some link.call ∧ ∃ function, link.call.child? "function" = some function ∧
      function.memberParts? = some (link.method, receiver) := by
  unfold link? at h
  split at h
  · simp at h
  · rename_i call hc
    split at h
    · simp at h
    · rename_i method object hm
      cases h
      obtain ⟨function, hf, hp⟩ := Option.bind_eq_some_iff.mp hm
      exact ⟨hc, function, hf, hp⟩

theorem sizeOf_lt_of_link? {link : Link} {receiver node : Node}
    (h : node.link? = some (link, receiver)) : sizeOf receiver < sizeOf node := by
  obtain ⟨hc, function, hf, hp⟩ := link?_parts h
  have h₁ := sizeOf_lt_of_memberParts? hp
  have h₂ := sizeOf_lt_of_child? hf
  have h₃ := sizeOf_asKind?_le hc
  omega

theorem sizeOf_call_le_of_link? {link : Link} {receiver node : Node}
    (h : node.link? = some (link, receiver)) : sizeOf link.call ≤ sizeOf node :=
  sizeOf_asKind?_le (link?_parts h).1

-- The links of an expression, outermost first.
def chain (node : Node) : List Link :=
  match _h : node.link? with
  | none => []
  | some (link, receiver) => link :: receiver.chain
termination_by sizeOf node
decreasing_by exact sizeOf_lt_of_link? _h

theorem chain_of_link?_none {node : Node} (h : node.link? = none) : node.chain = [] := by
  rw [chain]; split <;> simp_all

theorem chain_of_link? {link : Link} {receiver node : Node}
    (h : node.link? = some (link, receiver)) : node.chain = link :: receiver.chain := by
  rw [chain]; split <;> simp_all

theorem sizeOf_call_le_of_mem_chain {link : Link} (node : Node) (h : link ∈ node.chain) :
    sizeOf link.call ≤ sizeOf node := by
  cases hl : node.link? with
  | none => simp [chain_of_link?_none hl] at h
  | some found =>
      obtain ⟨outer, receiver⟩ := found
      rw [chain_of_link? hl] at h
      have hr := sizeOf_lt_of_link? hl
      rcases List.mem_cons.mp h with rfl | h
      · exact sizeOf_call_le_of_link? hl
      · have := sizeOf_call_le_of_mem_chain receiver h
        omega
termination_by sizeOf node

end Node

end ContentForms.Syntax
