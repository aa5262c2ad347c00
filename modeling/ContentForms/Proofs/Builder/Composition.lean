import ContentForms.Proofs.Builder
import ContentForms.Proofs.OrderedMap
import ContentForms.Proofs.Syntax.Shape
import ContentForms.Proofs.Syntax.Written

namespace ContentForms.Builder

open Syntax

-- Inside its wrappers `node` is the call `receiver.method(...)`. The callee may have wrappers too.
structure CallsMethod (node call : Node) (method : String) (receiver : Node) : Prop where
  unwrap_eq : node.unwrap = some call
  kind_eq : call.kind = "call_expression"
  callee : ∃ callee member property,
    call.child? "function" = some callee ∧ callee.unwrap = some member ∧
      member.kind = "member_expression" ∧ member.child? "property" = some property ∧
      property.textD = method ∧ member.child? "object" = some receiver

section Links

variable {node call receiver : Node} {method : String}

theorem callsMethod_iff :
    CallsMethod node call method receiver ↔ node.link? = some (⟨method, call⟩, receiver) := by
  constructor
  · rintro ⟨hu, hk, callee, member, property, hf, hmember⟩
    have hcall : node.asCall? = some call := Node.asKind?_eq_some.mpr ⟨hu, hk⟩
    have hparts : callee.memberParts? = some (method, receiver) :=
      Node.memberParts?_eq_some.mpr ⟨member, property, hmember⟩
    simp only [Node.link?, hcall, hf, Option.bind_some, hparts]
  · intro h
    obtain ⟨hcall, callee, hf, hparts⟩ := Node.link?_parts h
    obtain ⟨hu, hk⟩ := Node.asKind?_eq_some.mp hcall
    obtain ⟨member, property, hmember⟩ := Node.memberParts?_eq_some.mp hparts
    exact ⟨hu, hk, callee, member, property, hf, hmember⟩

theorem CallsMethod.chain_eq (h : CallsMethod node call method receiver) :
    node.chain = ⟨method, call⟩ :: receiver.chain :=
  Node.chain_of_link? (callsMethod_iff.mp h)

-- The first link of the chain stays where it is when a method is called on the expression.
theorem CallsMethod.getLast?_chain (h : CallsMethod node call method receiver)
    (hr : receiver.chain ≠ []) : node.chain.getLast? = receiver.chain.getLast? := by
  rw [h.chain_eq, List.getLast?_cons, List.getLast?_eq_some_getLast hr]
  rfl

theorem chain_eq_nil_of_not_callsMethod
    (h : ¬ ∃ call method receiver, CallsMethod node call method receiver) : node.chain = [] := by
  apply Node.chain_of_link?_none
  cases hl : node.link? with
  | none => rfl
  | some found =>
      obtain ⟨⟨method, call⟩, receiver⟩ := found
      exact absurd ⟨call, method, receiver, callsMethod_iff.mpr hl⟩ h

end Links

section Methods

variable {node call receiver : Node} {method : String}

-- If the first link is a marker, both fields are optional by it; otherwise the new method is one
-- more link to look for a marker.
theorem resolve_of_method (h : CallsMethod node call method receiver) (hr : receiver.chain ≠ []) :
    resolve node =
      { type := (resolve receiver).type
        optional := (resolve receiver).optional || isMarker method } := by
  have hfirst : receiver.chain.getLast? = some (receiver.chain.getLast hr) :=
    List.getLast?_eq_some_getLast hr
  have hlast : node.chain.getLast? = some (receiver.chain.getLast hr) :=
    (h.getLast?_chain hr).trans hfirst
  cases hm : isMarker (receiver.chain.getLast hr).method with
  | true =>
      rw [resolve_of_marker hlast hm, resolve_of_marker hfirst hm]
      simp
  | false =>
      rw [resolve_of_builder hlast hm, resolve_of_builder hfirst hm, h.chain_eq]
      simp [Bool.or_comm]

theorem getLast?_of_chain_nil (h : CallsMethod node call method receiver)
    (hr : receiver.chain = []) : node.chain.getLast? = some ⟨method, call⟩ := by
  rw [h.chain_eq, hr]
  rfl

theorem resolve_of_first_builder (h : CallsMethod node call method receiver)
    (hr : receiver.chain = []) (hm : isMarker method = false) :
    resolve node = { type := typeOf method, optional := false } := by
  rw [resolve_of_builder (getLast?_of_chain_nil h hr) hm, h.chain_eq, hr]
  simp [hm]

theorem resolve_of_first_marker (h : CallsMethod node call method receiver)
    (hr : receiver.chain = []) (hm : isMarker method = true) :
    resolve node =
      { type := (resolveAny call.callArguments.head?).type
        optional := true } := by
  rw [resolve_of_marker (getLast?_of_chain_nil h hr) hm]
  cases call.callArguments.head? <;> rfl

theorem isMarker_eq_decide (name : String) :
    isMarker name = decide (name ∈ ["optional", "nullable", "nullish"]) :=
  List.contains_eq_mem name markers

private theorem typeOf_eq_lookup (name : String) :
    typeOf name = (types.lookup name).getD .unknown := by
  rw [typeOf, lookupEntry_eq_lookup]

-- `inner` with methods called on it and markers put around it, in the order of their names.
inductive Extended (inner : Node) : List String → Node → Prop where
  | refl : Extended inner [] inner
  | method {methods : List String} {node call receiver : Node} {name : String} :
      CallsMethod node call name receiver → Extended inner methods receiver →
        Extended inner (methods ++ [name]) node
  | marker {methods : List String} {node call receiver argument : Node} {name : String} :
      CallsMethod node call name receiver → receiver.chain = [] →
        name ∈ ["optional", "nullable", "nullish"] →
        call.callArguments.head? = some argument → Extended inner methods argument →
        Extended inner (methods ++ [name]) node

variable {inner : Node} {methods : List String}

theorem Extended.chain_ne_nil (h : Extended inner methods node) (hi : inner.chain ≠ []) :
    node.chain ≠ [] := by
  cases h with
  | refl => exact hi
  | method hcall _ => simp [hcall.chain_eq]
  | marker hcall _ _ _ _ => simp [hcall.chain_eq]

-- A marker around an expression and a method called on it add the same to the field.
theorem Extended.resolve_eq (h : Extended inner methods node) (hi : inner.chain ≠ []) :
    resolve node =
      { type := (resolve inner).type
        optional := (resolve inner).optional || methods.any isMarker } := by
  induction h with
  | refl => simp
  | method hcall hext ih =>
      rw [resolve_of_method hcall (hext.chain_ne_nil hi), ih]
      simp [Bool.or_assoc]
  | marker hcall hr hm ha _ ih =>
      have hmarker : isMarker _ = true := (isMarker_eq_decide _).trans (decide_eq_true hm)
      rw [resolve_of_first_marker hcall hr hmarker, ha]
      simp [resolveAny, ih, hmarker]

end Methods

-- The type is settled at the innermost builder, however many methods and markers stand around it.
theorem resolve_composes :
    let markers := ["optional", "nullable", "nullish"]
    let builders : List (String × FieldType) :=
      [("string", .text), ("number", .number), ("boolean", .boolean), ("date", .date),
        ("array", .array)]
    (∀ node call method receiver, CallsMethod node call method receiver →
        (receiver.chain ≠ [] → resolve node =
          { type := (resolve receiver).type
            optional := (resolve receiver).optional || decide (method ∈ markers) }) ∧
        (receiver.chain = [] → method ∉ markers → resolve node =
          { type := (builders.lookup method).getD .unknown, optional := false }) ∧
        (receiver.chain = [] → method ∈ markers → resolve node =
          { type := (resolveAny call.callArguments.head?).type, optional := true })) ∧
      (∀ node, (¬ ∃ call method receiver, CallsMethod node call method receiver) →
        resolve node = { type := .unknown, optional := false }) ∧
      resolveAny none = { type := .unknown, optional := false } ∧
      ∀ inner methods node, inner.chain ≠ [] → Extended inner methods node →
        resolve node =
          { type := (resolve inner).type
            optional :=
              (resolve inner).optional || methods.any fun name => decide (name ∈ markers) } := by
  intro markers builders
  have hmarker : ∀ name, decide (name ∈ markers) = isMarker name := fun name =>
    (isMarker_eq_decide name).symm
  refine ⟨fun node call method receiver h => ⟨fun hr => ?_, fun hr hm => ?_, fun hr hm => ?_⟩,
    fun node h => ?_, rfl, fun _ _ _ hi h => ?_⟩
  · rw [hmarker]
    exact resolve_of_method h hr
  · rw [resolve_of_first_builder h hr ((hmarker method).symm.trans (decide_eq_false hm)),
      typeOf_eq_lookup]
    rfl
  · exact resolve_of_first_marker h hr ((hmarker method).symm.trans (decide_eq_true hm))
  · exact resolve_of_chain_nil (chain_eq_nil_of_not_callsMethod h)
  · simp only [hmarker]
    exact h.resolve_eq hi

section Sample

open Syntax.Written (call member identifier placed link?_call link?_identifier callArguments_call)

def textSample : Node := call (member (identifier "z") "string") []

def optionalSample : Node := call (member (identifier "z") "optional") [textSample]

def nullableSample : Node := call (member (identifier "z") "nullable") [optionalSample]

-- `z.nullable(z.optional(z.string())).default(y)`
def defaultSample : Node := call (member nullableSample "default") [identifier "y"]

theorem callsMethod_call {node receiver : Node} {method : String} {arguments : List Node}
    (hk : node.kind = "call_expression")
    (h : node.children = (call (member receiver method) arguments).children) :
    CallsMethod node node method (placed "object" receiver) :=
  callsMethod_iff.mpr (link?_call hk h)

theorem chain_identifier (name : String) : (placed "object" (identifier name)).chain = [] :=
  Node.chain_of_link?_none (link?_identifier "object" name)

-- `z.name(argument)` puts a marker around its argument.
theorem Extended.around {inner argument node : Node} {methods : List String} {name : String}
    (h : Extended inner methods argument) (hm : name ∈ ["optional", "nullable", "nullish"])
    (ha : argument.isOperand = true) (hk : node.kind = "call_expression")
    (hc : node.children = (call (member (identifier "z") name) [argument]).children) :
    Extended inner (methods ++ [name]) node := by
  have harguments : node.callArguments = [argument] := callArguments_call hc (by simpa using ha)
  exact .marker (callsMethod_call hk hc) (chain_identifier "z") hm (by rw [harguments]; rfl) h

theorem extended_defaultSample :
    Extended textSample ["optional", "nullable", "default"] defaultSample := by
  have hoptional : Extended textSample ["optional"] optionalSample :=
    Extended.refl.around (by decide) rfl rfl rfl
  have hnullable : Extended textSample ["optional", "nullable"] (placed "object" nullableSample) :=
    hoptional.around (by decide) rfl rfl rfl
  exact .method (callsMethod_call rfl rfl) hnullable

theorem resolve_defaultSample :
    CallsMethod textSample textSample "string" (placed "object" (identifier "z")) ∧
      resolve textSample = { type := .text, optional := false } ∧
      Extended textSample ["optional", "nullable", "default"] defaultSample ∧
      resolve defaultSample = { type := .text, optional := true } := by
  have hcall : CallsMethod textSample textSample "string" (placed "object" (identifier "z")) :=
    callsMethod_call rfl rfl
  have htext : resolve textSample = { type := .text, optional := false } :=
    (resolve_composes.1 _ _ _ _ hcall).2.1 (chain_identifier "z") (by decide)
  have hchain : textSample.chain ≠ [] := by simp [hcall.chain_eq]
  refine ⟨hcall, htext, extended_defaultSample, ?_⟩
  rw [resolve_composes.2.2.2 _ _ _ hchain extended_defaultSample, htext]
  decide

end Sample

end ContentForms.Builder
