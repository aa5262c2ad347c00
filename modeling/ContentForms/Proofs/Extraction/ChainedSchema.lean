import ContentForms.Proofs.Builder.Composition
import ContentForms.Proofs.Extraction.OrderedReading

namespace ContentForms.Extraction

open Syntax Builder

def IsMethodCall (node : Node) : Prop :=
  ∃ call method receiver, CallsMethod node call method receiver

-- `node` is `schema` with methods called on it, one on the result of the other.
inductive Chained (schema : Node) : List String → Node → Prop where
  | refl : Chained schema [] schema
  | method {methods : List String} {node call receiver : Node} {name : String} :
      CallsMethod node call name receiver → Chained schema methods receiver →
        Chained schema (methods ++ [name]) node

section Chain

variable {schema node call receiver : Node} {method : String} {methods : List String}

theorem chain_eq_nil_iff : node.chain = [] ↔ ¬ IsMethodCall node := by
  constructor
  · rintro hn ⟨_, _, _, h⟩
    rw [h.chain_eq] at hn
    cases hn
  · exact chain_eq_nil_of_not_callsMethod

theorem Chained.isMethodCall (h : Chained schema methods node) (hs : IsMethodCall schema) :
    IsMethodCall node := by
  cases h with
  | refl => exact hs
  | method hcall _ => exact ⟨_, _, _, hcall⟩

-- One more method: the first link is still the one whose arguments hold the fields.
private theorem schemaObject?_of_method (h : CallsMethod node call method receiver)
    (hr : IsMethodCall receiver) : schemaObject? node = schemaObject? receiver := by
  have hne : receiver.chain ≠ [] := fun hn => chain_eq_nil_iff.mp hn hr
  have hlast := List.getLast?_eq_some_getLast hne
  simp only [schemaObject?, h.getLast?_chain hne, hlast]

theorem schemaObject?_of_first (h : CallsMethod node call method receiver)
    (hr : ¬ IsMethodCall receiver) : schemaObject? node = call.firstObjectArgument? := by
  simp only [schemaObject?, getLast?_of_chain_nil h (chain_eq_nil_iff.mpr hr)]

private theorem schemaObject?_of_function (h : ¬ IsMethodCall schema) :
    schemaObject? schema = schema.asCall?.bind Node.firstObjectArgument? := by
  simp only [schemaObject?, chain_eq_nil_iff.mpr h, List.getLast?_nil]

theorem Chained.schemaObject?_eq (h : Chained schema methods node) (hs : IsMethodCall schema) :
    schemaObject? node = schemaObject? schema := by
  induction h with
  | refl => rfl
  | method hcall hrest ih => rw [schemaObject?_of_method hcall (hrest.isMethodCall hs), ih]

theorem Chained.eq_of_nil (h : Chained schema methods node) (hm : methods = []) :
    node = schema := by
  cases h with
  | refl => rfl
  | method _ _ => simp at hm

-- The methods after the first are chained onto its call.
theorem Chained.first (h : Chained schema methods node) (hm : methods ≠ []) :
    ∃ first call method rest, methods = method :: rest ∧ CallsMethod first call method schema ∧
      Chained first rest node := by
  induction h with
  | refl => exact absurd rfl hm
  | @method methods node call receiver name hcall hrest ih =>
      by_cases hn : methods = []
      · obtain rfl := hrest.eq_of_nil hn
        exact ⟨node, call, name, [], by simp [hn], hcall, .refl⟩
      · obtain ⟨first, inner, method, rest, rfl, hfirst, hchain⟩ := ih hn
        exact ⟨first, inner, method, rest ++ [name], rfl, hfirst, .method hcall hchain⟩

end Chain

-- The fields are read off the innermost method call, so further methods leave them alone. A plain
-- function has its fields read only while nothing is called on it.
theorem fields_of_chained {schema node : Node} {methods : List String}
    (h : Chained schema methods node) :
    (IsMethodCall schema → fields node = fields schema) ∧
      (∀ call method receiver, CallsMethod schema call method receiver →
        ¬ IsMethodCall receiver → schemaObject? node = call.firstObjectArgument?) ∧
      (¬ IsMethodCall schema →
        schemaObject? schema = schema.asCall?.bind Node.firstObjectArgument? ∧
        (methods ≠ [] → ∃ first call method rest, methods = method :: rest ∧
          CallsMethod first call method schema ∧ Chained first rest node ∧
          schemaObject? node = call.firstObjectArgument?)) := by
  refine ⟨?_, ?_, ?_⟩
  · intro hs
    simp only [fields, h.schemaObject?_eq hs]
  · intro call method receiver hcall hr
    rw [h.schemaObject?_eq ⟨_, _, _, hcall⟩, schemaObject?_of_first hcall hr]
  · intro hs
    refine ⟨schemaObject?_of_function hs, fun hm => ?_⟩
    obtain ⟨first, call, method, rest, he, hfirst, hrest⟩ := h.first hm
    refine ⟨first, call, method, rest, he, hfirst, hrest, ?_⟩
    rw [hrest.schemaObject?_eq ⟨_, _, _, hfirst⟩, schemaObject?_of_first hfirst hs]

section Sample

open Syntax.Written

def titleFields : List (String × Node) := [("title", methodChain "string" [])]

def memberSchema : Node := schemaOf titleFields

-- `object({ title: z.string() })`
def functionSchema : Node := call (identifier "object") [object titleFields]

def strict (schema : Node) : Node := call (member schema "strict") []

theorem callsMethod_strict (schema : Node) :
    CallsMethod (strict schema) (strict schema) "strict" (placed "object" schema) :=
  callsMethod_call rfl rfl

theorem fields_memberSchema_strict :
    IsMethodCall (placed "object" memberSchema) ∧
      Chained (placed "object" memberSchema) ["strict"] (strict memberSchema) ∧
      ((fields (strict memberSchema)).result.map FieldTable.fields) =
        .ok ⟨[("title", ⟨.text, false⟩)], by decide⟩ := by
  have hcall : IsMethodCall (placed "object" memberSchema) :=
    ⟨_, _, _, callsMethod_call rfl rfl⟩
  have hchained : Chained (placed "object" memberSchema) ["strict"] (strict memberSchema) :=
    .method (callsMethod_strict memberSchema) .refl
  refine ⟨hcall, hchained, ?_⟩
  rw [(fields_of_chained hchained).1 hcall]
  decide +kernel

-- The fields of a plain function are lost to the first method.
theorem strict_function_loses_fields :
    ¬ ∀ schema node call method, schema.asCall?.isSome → CallsMethod node call method schema →
      (fields node).result = (fields schema).result := by
  intro h
  have hfields := h _ _ _ _ (by decide +kernel) (callsMethod_strict functionSchema)
  have hbare : ((fields (placed "object" functionSchema)).result.map FieldTable.fields) =
      .ok ⟨[("title", ⟨.text, false⟩)], by decide⟩ := by decide +kernel
  have hstrict : ((fields (strict functionSchema)).result.map FieldTable.fields) =
      .ok .empty := by decide +kernel
  rw [hfields, hbare] at hstrict
  revert hstrict
  decide

end Sample

end ContentForms.Extraction
