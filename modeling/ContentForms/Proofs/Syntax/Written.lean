import ContentForms.Proofs.Syntax.Padding
import Mathlib.Data.List.Induction

namespace ContentForms.Syntax.Written

open Declaration (Quiet quiet_iff)

def leaf (kind text : String) : Node := { kind, text := some text }

def token (text : String) : Node := { kind := text, named := false, text := some text }

def branch (kind : String) (children : List Node) : Node :=
  Node.withJoinedText { kind, children }

def placed (role : String) (node : Node) : Node := { node with role := some role }

def identifier (name : String) : Node := leaf "identifier" name

def string (content : String) : Node :=
  branch "string" [token "'", leaf "string_fragment" content, token "'"]

def pair (entry : String × Node) : Node :=
  branch "pair" [placed "key" (leaf "property_identifier" entry.1), token ":",
    placed "value" entry.2]

def separated : List Node → List Node
  | [] => []
  | [node] => [node]
  | node :: rest => node :: token "," :: separated rest

def object (entries : List (String × Node)) : Node :=
  branch "object" (token "\x7b" :: separated (entries.map pair) ++ [token "\x7d"])

def member (object : Node) (property : String) : Node :=
  branch "member_expression" [placed "object" object, token ".",
    placed "property" (leaf "property_identifier" property)]

def call (function : Node) (arguments : List Node) : Node :=
  branch "call_expression" [placed "function" function,
    placed "arguments" (branch "arguments" (token "(" :: separated arguments ++ [token ")"]))]

section Readers

@[simp] theorem kind_branch (kind : String) (children : List Node) :
    (branch kind children).kind = kind := rfl

@[simp] theorem children_branch (kind : String) (children : List Node) :
    (branch kind children).children = children := rfl

@[simp] theorem kind_placed (role : String) (node : Node) : (placed role node).kind = node.kind :=
  rfl

@[simp] theorem role_placed (role : String) (node : Node) : (placed role node).role = some role :=
  rfl

@[simp] theorem children_placed (role : String) (node : Node) :
    (placed role node).children = node.children := rfl

@[simp] theorem kind_token (text : String) : (token text).kind = text := rfl

@[simp] theorem role_token (text : String) : (token text).role = none := rfl

@[simp] theorem kind_leaf (kind text : String) : (leaf kind text).kind = kind := rfl

@[simp] theorem textD_leaf (role kind text : String) :
    (placed role (leaf kind text)).textD = text := rfl

theorem asKind?_of_kind {node : Node} {kind : String} (h : node.kind = kind)
    (hk : kind ∉ wrapperKinds) : node.asKind? kind = some node := by
  rw [Node.asKind?, Node.unwrap_of_notMem (h ▸ hk)]
  simp [Option.filter, h]

theorem asKind?_of_ne {node : Node} {kind : String} (h : node.kind ≠ kind)
    (hw : node.kind ∉ wrapperKinds) : node.asKind? kind = none := by
  rw [Node.asKind?, Node.unwrap_of_notMem hw]
  simp [Option.filter, h]

-- Commas are passed over by every reader that passes over bare tokens.
theorem filterMap_separated {f : Node → Option α} (hf : f (token ",") = none)
    (nodes : List Node) : (separated nodes).filterMap f = nodes.filterMap f := by
  fun_induction separated nodes with
  | case1 => rfl
  | case2 => rfl
  | case3 node rest _ ih => simp [List.filterMap_cons, hf, ih]

private theorem filter_separated {f : Node → Bool} (hf : f (token ",") = false)
    (nodes : List Node) :
    (separated nodes).filter f = nodes.filter f := by
  rw [← List.filterMap_eq_filter, filterMap_separated (by simp [Option.guard, hf])]

theorem asNamedPair?_pair (entry : String × Node) :
    (pair entry).asNamedPair? = some (entry.1, placed "value" entry.2) := by
  simp [Node.asNamedPair?, pair, branch, Node.withJoinedText, Node.child?]

theorem namedPairs_object {node : Node} {entries : List (String × Node)}
    (h : node.children = (object entries).children) :
    node.namedPairs = entries.map fun entry => (entry.1, placed "value" entry.2) := by
  have ht : ∀ text, (token text).asNamedPair? = none := fun _ => rfl
  simp [Node.namedPairs, h, object, ht, filterMap_separated, List.filterMap_map,
    asNamedPair?_pair]

theorem callArguments_call {node function : Node} {arguments : List Node}
    (h : node.children = (call function arguments).children)
    (ha : ∀ argument ∈ arguments, argument.isOperand = true) :
    node.callArguments = arguments := by
  have ht : ∀ text, (token text).isOperand = false := fun _ => rfl
  have hf : arguments.filter Node.isOperand = arguments := List.filter_eq_self.mpr ha
  simp [Node.callArguments, h, call, Node.child?, ht, filter_separated, hf]

theorem asObject?_object (entries : List (String × Node)) :
    (object entries).asObject? = some (object entries) :=
  asKind?_of_kind rfl (by decide)

theorem firstObjectArgument?_call {node function : Node} {entries : List (String × Node)}
    (h : node.children = (call function [object entries]).children) :
    node.firstObjectArgument? = some (object entries) := by
  rw [Node.firstObjectArgument?, callArguments_call h (by simp; rfl)]
  simp [asObject?_object]

theorem stringValue?_string (role content : String) :
    (placed role (string content)).stringValue? = some content := by
  have hk : (placed role (string content)).asKind? "string" = some (placed role (string content)) :=
    asKind?_of_kind rfl (by decide)
  have ht : (placed role (string content)).textD.toList =
      '\'' :: (content.toList ++ ['\'']) := by
    simp [placed, string, branch, Node.withJoinedText, Node.textD, token, leaf]
  obtain ⟨second, rest, hr⟩ : ∃ second rest, content.toList ++ ['\''] = second :: rest :=
    List.exists_cons_of_ne_nil (by simp)
  simp only [Node.stringValue?, hk, ht, hr]
  rw [← hr, List.dropLast_concat, String.ofList_toList]

theorem memberParts?_member (role : String) (object : Node) (property : String) :
    (placed role (member object property)).memberParts? =
      some (property, placed "object" object) := by
  have hk : (placed role (member object property)).asKind? "member_expression" =
      some (placed role (member object property)) := asKind?_of_kind rfl (by decide)
  rw [Node.memberParts?, hk]
  simp [member, Node.child?]

theorem link?_call {node receiver : Node} {method : String} {arguments : List Node}
    (hk : node.kind = "call_expression")
    (h : node.children = (call (member receiver method) arguments).children) :
    node.link? = some (⟨method, node⟩, placed "object" receiver) := by
  have hf : node.child? "function" = some (placed "function" (member receiver method)) := by
    simp [Node.child?, h, call]
  rw [Node.link?, Node.asCall?, asKind?_of_kind hk (by decide)]
  simp only [hf, Option.bind_some, memberParts?_member]

theorem link?_identifier (role name : String) :
    (placed role (identifier name)).link? = none := by
  rw [Node.link?, Node.asCall?, asKind?_of_ne (by simp [identifier])]
  simp [identifier, wrapperKinds]

-- `z.builder().method()...`, with the methods in the order in which they are written.
def methodChain (builder : String) (methods : List String) : Node :=
  methods.foldl (fun receiver method => call (member receiver method) [])
    (call (member (identifier "z") builder) [])

-- The chain goes from the last written method to the first.
theorem chain_methodChain (role builder : String) (methods : List String) :
    (placed role (methodChain builder methods)).chain.map Link.method =
      methods.reverse ++ [builder] := by
  induction methods using List.reverseRecOn generalizing role with
  | nil =>
      have hl : (placed role (methodChain builder [])).link? =
          some (⟨builder, placed role (methodChain builder [])⟩,
            placed "object" (identifier "z")) := link?_call rfl rfl
      rw [Node.chain_of_link? hl, Node.chain_of_link?_none (link?_identifier _ _)]
      rfl
  | append_singleton methods method ih =>
      have hl : (placed role (methodChain builder (methods ++ [method]))).link? =
          some (⟨method, placed role (methodChain builder (methods ++ [method]))⟩,
            placed "object" (methodChain builder methods)) :=
        link?_call (by simp [methodChain, call]) (by rw [methodChain, List.foldl_append]; rfl)
      rw [Node.chain_of_link? hl]
      simp [ih]

end Readers

section Quiet

@[simp] theorem quiet_placed {role : String} {node : Node} :
    Quiet (placed role node) ↔ Quiet node := by
  rw [quiet_iff, quiet_iff, kind_placed, children_placed]

@[simp] theorem quiet_token {text : String} :
    Quiet (token text) ↔ text ≠ "variable_declarator" ∧ text ≠ "export_statement" := by
  rw [quiet_iff]
  simp [token]

@[simp] theorem quiet_leaf {kind text : String} :
    Quiet (leaf kind text) ↔ kind ≠ "variable_declarator" ∧ kind ≠ "export_statement" := by
  rw [quiet_iff]
  simp [leaf]

@[simp] theorem quiet_branch {kind : String} {children : List Node} :
    Quiet (branch kind children) ↔
      (kind ≠ "variable_declarator" ∧ kind ≠ "export_statement") ∧
        ∀ child ∈ children, Quiet child := by
  rw [quiet_iff, kind_branch, children_branch]

@[simp] theorem quiet_separated {nodes : List Node} :
    (∀ node ∈ separated nodes, Quiet node) ↔ ∀ node ∈ nodes, Quiet node := by
  fun_induction separated nodes with
  | case1 => rfl
  | case2 => rfl
  | case3 node rest _ ih => simp [ih]

theorem quiet_string (content : String) : Quiet (string content) := by
  simp [string]

@[simp] theorem quiet_pair {entry : String × Node} : Quiet (pair entry) ↔ Quiet entry.2 := by
  simp [pair]

theorem quiet_object {entries : List (String × Node)} :
    Quiet (object entries) ↔ ∀ entry ∈ entries, Quiet entry.2 := by
  have hm : (∀ node ∈ entries.map pair, Quiet node) ↔ ∀ entry ∈ entries, Quiet entry.2 := by
    rw [List.forall_mem_map]
    simp only [quiet_pair]
  rw [← hm]
  simp [object, or_imp, forall_and]

theorem quiet_member {object : Node} {property : String} :
    Quiet (member object property) ↔ Quiet object := by
  simp [member]

theorem quiet_call {function : Node} {arguments : List Node} :
    Quiet (call function arguments) ↔
      Quiet function ∧ ∀ argument ∈ arguments, Quiet argument := by
  simp [call, or_imp, forall_and]

theorem quiet_methodChain (builder : String) (methods : List String) :
    Quiet (methodChain builder methods) := by
  induction methods using List.reverseRecOn with
  | nil => simp [methodChain, quiet_call, quiet_member, identifier]
  | append_singleton methods method ih =>
      rw [methodChain, List.foldl_append]
      exact quiet_call.mpr ⟨quiet_member.mpr ih, by simp⟩

end Quiet

end ContentForms.Syntax.Written
