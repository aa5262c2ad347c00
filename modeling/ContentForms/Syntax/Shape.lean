import ContentForms.Syntax.Node

namespace ContentForms.Syntax

-- The kinds of nodes that enclose an expression without changing its value.
def wrapperKinds : List String :=
  ["parenthesized_expression", "as_expression", "satisfies_expression", "non_null_expression"]

namespace Node

mutual

-- The expression inside all wrappers. A wrapper without an operand encloses nothing.
def unwrap : Node → Option Node
  | node@⟨kind, _, _, _, _, _, children⟩ =>
      if wrapperKinds.contains kind then unwrapFirst children else some node

def unwrapFirst : List Node → Option Node
  | [] => none
  | node :: rest => if node.isOperand then unwrap node else unwrapFirst rest

end

mutual

theorem sizeOf_unwrap_le {inner : Node} : (node : Node) →
    unwrap node = some inner → sizeOf inner ≤ sizeOf node
  | ⟨kind, named, role, text, row, offset, children⟩, h => by
      unfold unwrap at h
      split at h
      · have := sizeOf_unwrapFirst_le children h
        simp only [mk.sizeOf_spec]
        omega
      · cases h; exact Nat.le_refl _

theorem sizeOf_unwrapFirst_le {inner : Node} : (nodes : List Node) →
    unwrapFirst nodes = some inner → sizeOf inner ≤ sizeOf nodes
  | [], h => by simp [unwrapFirst] at h
  | node :: rest, h => by
      unfold unwrapFirst at h
      split at h
      · have := sizeOf_unwrap_le node h
        simp only [List.cons.sizeOf_spec]
        omega
      · have := sizeOf_unwrapFirst_le rest h
        simp only [List.cons.sizeOf_spec]
        omega

end

def asKind? (kind : String) (node : Node) : Option Node :=
  node.unwrap.filter fun inner => inner.kind = kind

def asObject? (node : Node) : Option Node := node.asKind? "object"

def asCall? (node : Node) : Option Node := node.asKind? "call_expression"

theorem sizeOf_asKind?_le {kind : String} {inner node : Node}
    (h : node.asKind? kind = some inner) : sizeOf inner ≤ sizeOf node := by
  unfold asKind? at h
  obtain ⟨h, -⟩ := Option.filter_eq_some_iff.mp h
  exact sizeOf_unwrap_le node h

-- The arguments of a call in parentheses; a template has none.
def callArguments (call : Node) : List Node :=
  match call.child? "arguments" with
  | none => []
  | some arguments =>
      if arguments.kind = "arguments" then arguments.children.filter Node.isOperand else []

theorem sizeOf_lt_of_mem_callArguments {argument call : Node}
    (h : argument ∈ call.callArguments) : sizeOf argument < sizeOf call := by
  unfold callArguments at h
  split at h
  · simp at h
  · rename_i arguments hc
    split at h
    · have h₁ := sizeOf_lt_of_mem_children (List.mem_filter.mp h).1
      have h₂ := sizeOf_lt_of_child? hc
      omega
    · simp at h

def firstObjectArgument? (call : Node) : Option Node := call.callArguments.findSome? asObject?

-- The key and the value of a pair whose key is a plain name.
def asNamedPair? (node : Node) : Option (String × Node) :=
  if node.named && node.kind == "pair" then
    match node.child? "key", node.child? "value" with
    | some key, some value =>
        if key.kind = "property_identifier" then some (key.textD, value) else none
    | _, _ => none
  else none

-- The pairs of an object with a plain name as key, in order. Quoted, numeric and computed keys,
-- shorthands, spreads and methods are left out.
def namedPairs (object : Node) : List (String × Node) := object.children.filterMap asNamedPair?

-- What stands between the quotes of a string literal, as it is written.
def stringValue? (node : Node) : Option String :=
  match node.asKind? "string" with
  | none => none
  | some literal =>
      match literal.textD.toList with
      | _ :: second :: rest => some (String.ofList (second :: rest).dropLast)
      | _ => none

def memberParts? (node : Node) : Option (String × Node) :=
  match node.asKind? "member_expression" with
  | none => none
  | some member =>
      match member.child? "property", member.child? "object" with
      | some property, some object => some (property.textD, object)
      | _, _ => none

theorem sizeOf_lt_of_memberParts? {name : String} {object node : Node}
    (h : node.memberParts? = some (name, object)) : sizeOf object < sizeOf node := by
  unfold memberParts? at h
  split at h
  · simp at h
  · rename_i member hm
    split at h
    · rename_i property found _ ho
      cases h
      have h₁ := sizeOf_lt_of_child? ho
      have h₂ := sizeOf_asKind?_le hm
      omega
    · simp at h

end Node

end ContentForms.Syntax
