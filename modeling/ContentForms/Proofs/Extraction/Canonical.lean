import ContentForms.Proofs.Extraction.Returned
import ContentForms.Proofs.Extraction.Transparency
import ContentForms.Proofs.Syntax.Written

namespace ContentForms.Canonical

open Syntax Syntax.Written Declaration Extraction

-- A builder and the methods after it that say of a field what it is.
structure FieldSpelling (field : Field) where
  builder : String
  methods : List String
  builds : if field.type = .unknown then
      builder ∉ Builder.types.map Prod.fst ∧ builder ∉ Builder.markers
    else (builder, field.type) ∈ Builder.types
  marked : field.optional = true ↔ ∃ method ∈ methods, method ∈ Builder.markers

namespace FieldSpelling

def plainBuilder : FieldType → String
  | .text => "string"
  | .number => "number"
  | .boolean => "boolean"
  | .date => "date"
  | .array => "array"
  | .unknown => "custom"

def plain (field : Field) : FieldSpelling field where
  builder := plainBuilder field.type
  methods := if field.optional then ["optional"] else []
  builds := by cases field.type <;> decide
  marked := by cases field.optional <;> decide

variable {field : Field} (spelling : FieldSpelling field)

def expression : Node := methodChain spelling.builder spelling.methods

theorem isMarker_builder : Builder.isMarker spelling.builder = false := by
  have hb := spelling.builds
  have hm : spelling.builder ∉ Builder.markers := by
    split at hb
    · exact hb.2
    · intro hm
      simp only [Builder.types, List.mem_cons, Prod.mk.injEq, List.not_mem_nil, or_false] at hb
      rcases hb with hb | hb | hb | hb | hb <;> rw [hb.1] at hm <;> revert hm <;> decide
  simpa [Builder.isMarker] using hm

theorem typeOf_builder : Builder.typeOf spelling.builder = field.type := by
  have hb := spelling.builds
  split at hb
  · rename_i hu
    rw [hu]
    obtain ⟨hn, -⟩ := hb
    simp only [Builder.types, List.map_cons, List.map_nil, List.mem_cons, List.not_mem_nil,
      or_false, not_or] at hn
    obtain ⟨h₁, h₂, h₃, h₄, h₅⟩ := hn
    simp [Builder.typeOf, Builder.types, lookupEntry, Ne.symm h₁, Ne.symm h₂, Ne.symm h₃,
      Ne.symm h₄, Ne.symm h₅]
  · simp only [Builder.types, List.mem_cons, Prod.mk.injEq, List.not_mem_nil, or_false] at hb
    rcases hb with hb | hb | hb | hb | hb <;> rw [hb.1, hb.2] <;> decide

private theorem any_isMarker : spelling.methods.any Builder.isMarker = field.optional := by
  rw [Bool.eq_iff_iff, spelling.marked]
  simp [Builder.isMarker]

-- The builder stands at the end of the chain, and only the methods after it can mark the field.
theorem resolve_expression (role : String) :
    Builder.resolve (placed role spelling.expression) = field := by
  have hc := chain_methodChain role spelling.builder spelling.methods
  obtain ⟨first, hl, hm⟩ : ∃ first,
      (placed role spelling.expression).chain.getLast? = some first ∧
        first.method = spelling.builder := by
    have hl := congrArg List.getLast? hc
    rw [List.getLast?_map, List.getLast?_concat] at hl
    exact Option.map_eq_some_iff.mp hl
  rw [Builder.resolve_of_builder hl (hm ▸ spelling.isMarker_builder), hm,
    spelling.typeOf_builder]
  have ho : ((placed role spelling.expression).chain.map Link.method).any Builder.isMarker =
      field.optional := by
    rw [expression, hc, List.any_append, List.any_reverse, spelling.any_isMarker]
    simp [spelling.isMarker_builder]
  rw [ho]

end FieldSpelling

-- The free choices in writing a config: the function that each collection is handed to, and for
-- each field of each collection the methods that spell it.
structure Style where
  callee : (collection : String) → String
  spelling : (collection name : String) → (field : Field) → FieldSpelling field

-- `z.object({ ... })`
def schemaExpression (style : Style) (name : String) (fields : List (String × Field)) : Node :=
  call (member (identifier "z") "object")
    [object (fields.map fun entry =>
      (entry.1, (style.spelling name entry.1 entry.2).expression))]

-- `defineCollection({ type: 'data', schema: z.object({ ... }) })`
def collectionExpression (style : Style) (name : String) (collection : Collection) : Node :=
  call (identifier (style.callee name))
    [object [("type", string collection.kind.name),
      ("schema", schemaExpression style name collection.fields.entries)]]

def declarationObject (style : Style) (config : Config) : Node :=
  object (config.collections.entries.map fun entry =>
    (entry.1, collectionExpression style entry.1 entry.2))

inductive Form where
  -- `const collections = { ... };`
  | plainVariable
  -- `export const collections = { ... };`
  | exportedVariable
  -- `export default { collections: { ... } };`
  | exportedObject
  -- `export default defineConfig({ collections: { ... } });`
  | exportedCall (callee : String)

def variableStatement (object : Node) : Node :=
  branch "lexical_declaration" [placed "kind" (token "const"),
    branch "variable_declarator" [placed "name" (identifier "collections"), token "=",
      placed "value" object],
    token ";"]

def defaultStatement (value : Node) : Node :=
  branch "export_statement" [token "export", token "default", placed "value" value, token ";"]

def Form.statement : Form → Node → Node
  | .plainVariable, declared => variableStatement declared
  | .exportedVariable, declared =>
      branch "export_statement" [token "export",
        placed "declaration" (variableStatement declared)]
  | .exportedObject, declared => defaultStatement (object [("collections", declared)])
  | .exportedCall callee, declared =>
      defaultStatement (call (identifier callee) [object [("collections", declared)]])

def program (form : Form) (before after : List Node) (declared : Node) : Node :=
  branch "program" (before ++ form.statement declared :: after)

private theorem resolved_fields (style : Style) (name : String) (fields : List (String × Field)) :
    (fields.map fun entry =>
      (entry.1, placed "value" (style.spelling name entry.1 entry.2).expression)).map resolved =
      fields := by
  rw [List.map_map]
  conv_rhs => rw [← List.map_id fields]
  refine List.map_congr_left fun entry _ => ?_
  simp [resolved, FieldSpelling.resolve_expression]

private theorem schemaPairs_schemaExpression (style : Style) (role name : String)
    (fields : List (String × Field)) :
    schemaPairs (placed role (schemaExpression style name fields)) =
      fields.map fun entry =>
        (entry.1, placed "value" (style.spelling name entry.1 entry.2).expression) := by
  have hl : (placed role (schemaExpression style name fields)).link? =
      some (⟨"object", placed role (schemaExpression style name fields)⟩,
        placed "object" (identifier "z")) := link?_call rfl rfl
  have hc : (placed role (schemaExpression style name fields)).chain =
      [⟨"object", placed role (schemaExpression style name fields)⟩] := by
    rw [Node.chain_of_link? hl, Node.chain_of_link?_none (link?_identifier _ _)]
  have ho : schemaObject? (placed role (schemaExpression style name fields)) =
      some (object (fields.map fun entry =>
        (entry.1, (style.spelling name entry.1 entry.2).expression))) := by
    rw [schemaObject?, hc]
    exact firstObjectArgument?_call rfl
  rw [schemaPairs, ho, Option.map_some, Option.getD_some, namedPairs_object rfl, List.map_map]
  rfl

-- A declared call gives back its collection.
theorem collectionOfCall_collectionExpression (style : Style) (role name : String)
    (collection : Collection) :
    (collectionOfCall (placed role (collectionExpression style name collection))).result =
      .ok collection := by
  have ho : optionPairs (placed role (collectionExpression style name collection)) =
      [("type", placed "value" (string collection.kind.name)),
        ("schema", placed "value" (schemaExpression style name collection.fields.entries))] := by
    have hf : (placed role (collectionExpression style name collection)).firstObjectArgument? =
        some _ := firstObjectArgument?_call rfl
    rw [optionPairs, hf, Option.map_some, Option.getD_some, namedPairs_object rfl]
    rfl
  have hs : schemas (placed role (collectionExpression style name collection)) =
      [placed "value" (schemaExpression style name collection.fields.entries)] := by
    rw [schemas, ho]
    rfl
  have hp := schemaPairs_schemaExpression style "value" name collection.fields.entries
  rw [collectionOfCall_eq_ok]
  refine ⟨?_, ?_, ?_⟩
  · rw [hs, List.forall_mem_singleton, hp]
    intro pair hm
    obtain ⟨entry, he, rfl⟩ := List.mem_map.mp hm
    exact collection.named entry.1 (List.mem_map_of_mem he)
  · rw [ho]
    have ht := stringValue?_string "value" collection.kind.name
    cases hk : collection.kind with
    | content => rw [hk] at ht; simp [valuesNamed, kindAfter, ht]; decide
    | data => rw [hk] at ht; simp [valuesNamed, kindAfter, ht]
  · rw [fieldPairs, hs, List.getLast?_singleton, Option.map_some, Option.getD_some, hp,
      resolved_fields, OrderedMap.ofList_entries]

-- Every entry of a written declaration is a call.
private theorem declaredCalls_declarationObject (style : Style) (role : String) (config : Config) :
    declaredCalls (placed role (declarationObject style config)).namedPairs =
      config.collections.entries.map fun entry =>
        (entry.1, placed "value" (collectionExpression style entry.1 entry.2)) := by
  have hp : (placed role (declarationObject style config)).namedPairs = _ := namedPairs_object rfl
  have hc : ∀ name collection,
      (placed "value" (collectionExpression style name collection)).asCall? =
        some (placed "value" (collectionExpression style name collection)) :=
    fun _ _ => asKind?_of_kind rfl (by decide)
  rw [hp, declaredCalls, List.map_map, List.filterMap_map]
  simp [Function.comp_def, hc]

private theorem quiet_declarationObject (style : Style) (config : Config) :
    Quiet (declarationObject style config) := by
  have hz : Quiet (identifier "z") := by simp [identifier]
  simp only [declarationObject, collectionExpression, schemaExpression, quiet_object, quiet_call,
    quiet_member, List.forall_mem_map, List.forall_mem_cons, List.not_mem_nil, false_imp_iff,
    implies_true, and_true, quiet_string, hz, true_and]
  intro entry _
  refine ⟨by simp [identifier], fun field _ => quiet_methodChain _ _⟩

private theorem firstFound?_placed {kind : String} {reader : Node → Option Node} {node : Node}
    (h : node.kind ≠ kind) (role : String) :
    firstFound? kind reader (placed role node).preorder = firstFound? kind reader node.preorder := by
  rw [firstFound?_preorder, firstFound?_preorder, kind_placed, if_neg h, if_neg h, children_placed]

section Locate

variable {declared : Node} (hk : declared.kind = "object")

include hk

-- The search enters the statement and stops at its declarator.
theorem firstFound?_variableStatement :
    firstFound? "variable_declarator" ofDeclarator? (variableStatement declared).preorder =
      some (placed "value" declared) := by
  have ho : (placed "value" declared).asObject? = some (placed "value" declared) :=
    asKind?_of_kind hk (by decide)
  have hd : ofDeclarator? (branch "variable_declarator" [placed "name" (identifier "collections"),
      token "=", placed "value" declared]) = some (placed "value" declared) := by
    simp [ofDeclarator?, Node.child?, identifier, collectionsName, ho]
  rw [firstFound?_preorder, variableStatement]
  simp only [kind_branch, children_branch]
  rw [← List.singleton_append, firstFound?_preorderAll_append,
    firstFound?_of_quiet _ _ (by simp) (.inl rfl), firstFound?_preorderAll_cons,
    firstFound?_preorder]
  simp [hd]

theorem ofExport?_defaultStatement {value holder : Node}
    (hv : exportedObject? (placed "value" value) = some holder)
    (hh : holder.children = (object [("collections", declared)]).children) :
    ofExport? (defaultStatement value) = some (placed "value" declared) := by
  have hf : (defaultStatement value).child? "value" = some (placed "value" value) := by
    simp [defaultStatement, Node.child?]
  have ho : (placed "value" declared).asObject? = some (placed "value" declared) :=
    asKind?_of_kind hk (by decide)
  simp [ofExport?, hf, hv, namedPairs_object hh, collectionsName, ho]

end Locate

theorem exportedObject?_object (entries : List (String × Node)) :
    exportedObject? (placed "value" (object entries)) =
      some (placed "value" (object entries)) := by
  have ho : (placed "value" (object entries)).asObject? = some (placed "value" (object entries)) :=
    asKind?_of_kind rfl (by decide)
  rw [exportedObject?, ho]

private theorem exportedObject?_call (callee : String) (entries : List (String × Node)) :
    exportedObject? (placed "value" (call (identifier callee) [object entries])) =
      some (object entries) := by
  have ho : (placed "value" (call (identifier callee) [object entries])).asObject? = none :=
    asKind?_of_ne (by simp [call]) (by simp [call, wrapperKinds])
  have hc : (placed "value" (call (identifier callee) [object entries])).asCall? =
      some (placed "value" (call (identifier callee) [object entries])) :=
    asKind?_of_kind rfl (by decide)
  rw [exportedObject?, ho, hc]
  exact firstObjectArgument?_call rfl

-- A default export is found once no declarator has been found in it.
theorem locate?_defaultStatement {value found : Node} (hq : Quiet value)
    (he : ofExport? (defaultStatement value) = some found) :
    locate? (defaultStatement value) = some found := by
  have hc : ∀ child ∈ (defaultStatement value).children, Quiet child := by
    simp [defaultStatement, hq]
  rw [locate?_eq, firstFound?_preorder, firstFound?_preorder,
    firstFound?_of_quiet _ _ hc (.inl rfl), he]
  simp [defaultStatement]

theorem locate?_variableStatement {declared : Node} (hk : declared.kind = "object") :
    locate? (variableStatement declared) = some (placed "value" declared) := by
  rw [locate?_eq, firstFound?_variableStatement hk, Option.some_or]

theorem locate?_statement (form : Form) {declared : Node} (hk : declared.kind = "object")
    (hq : Quiet declared) :
    locate? (form.statement declared) = some (placed "value" declared) := by
  cases form with
  | plainVariable => exact locate?_variableStatement hk
  | exportedVariable =>
      have hf : firstFound? "variable_declarator" ofDeclarator?
          (Form.exportedVariable.statement declared).preorder = some (placed "value" declared) := by
        rw [firstFound?_preorder, Form.statement]
        simp only [kind_branch, children_branch]
        rw [← List.singleton_append, firstFound?_preorderAll_append,
          firstFound?_of_quiet _ _ (by simp) (.inl rfl), firstFound?_preorderAll_cons,
          firstFound?_placed, firstFound?_variableStatement hk]
        · simp
        · simp [variableStatement]
      rw [locate?_eq, hf, Option.some_or]
  | exportedObject =>
      refine locate?_defaultStatement ?_
        (ofExport?_defaultStatement hk (exportedObject?_object _) rfl)
      simpa [quiet_object] using hq
  | exportedCall callee =>
      refine locate?_defaultStatement ?_
        (ofExport?_defaultStatement hk (exportedObject?_call callee _) rfl)
      simpa [quiet_object, quiet_call, identifier] using hq

-- Neither search finds anything in statements that declare nothing, so both come to the
-- declaration.
theorem locate?_program (form : Form) {before after : List Node}
    (hs : ∀ node ∈ before ++ after, Quiet node) {declared : Node} (hk : declared.kind = "object")
    (hq : Quiet declared) :
    locate? (program form before after declared) = some (placed "value" declared) := by
  have hf : ∀ kind reader, kind = "variable_declarator" ∨ kind = "export_statement" →
      firstFound? kind reader (program form before after declared).preorder =
        firstFound? kind reader (form.statement declared).preorder := by
    intro kind reader hd
    rw [List.forall_mem_append] at hs
    have hp : (program form before after declared).kind ≠ kind := by
      rcases hd with rfl | rfl <;> simp [program]
    rw [firstFound?_preorder, if_neg hp, program, children_branch,
      firstFound?_preorderAll_append, firstFound?_of_quiet _ _ hs.1 hd,
      firstFound?_preorderAll_cons, firstFound?_of_quiet _ _ hs.2 hd]
    simp
  rw [locate?_eq, hf _ _ (.inl rfl), hf _ _ (.inr rfl), ← locate?_eq, locate?_statement form hk hq]

-- What is read off a written config is the config, in whatever form, among whatever statements that
-- declare nothing, and however the tree is laid out, commented and wrapped.
theorem config_of_written (config : Config) (style : Style) (form : Form)
    (before after : List Node) (hs : ∀ node ∈ before ++ after, Quiet node) (root : Node)
    (hr : Padded (program form before after (declarationObject style config)) root) :
    (Extraction.config root).result = .ok config := by
  rw [(config_padded hr).1, config_eq_ok,
    locate?_program form hs rfl (quiet_declarationObject style config)]
  refine ⟨config.collections.entries, ?_, (OrderedMap.ofList_entries _).symm⟩
  rw [declaredCalls_declarationObject, Declares, List.forall₂_map_left_iff, List.forall₂_same]
  exact fun entry _ => ⟨rfl, collectionOfCall_collectionExpression style "value" entry.1 entry.2⟩

def sampleConfig : Config :=
  ⟨⟨[("blog", ⟨.data, ⟨[("title", ⟨.text, true⟩), ("cover", ⟨.unknown, false⟩)], by decide⟩,
      by decide⟩),
    ("authors", Collection.empty .content)], by decide⟩⟩

def plainStyle : Style := ⟨fun _ => "defineCollection", fun _ _ field => .plain field⟩

def importStatement : Node := leaf "import_statement" "import 'astro';"

def sampleSource : Node :=
  { kind := "program"
    children := leaf "comment" "// content" ::
      (program .exportedVariable [importStatement] []
        (declarationObject plainStyle sampleConfig)).children }

theorem config_sampleSource :
    (∀ node ∈ [importStatement] ++ [], Quiet node) ∧
      Padded (program .exportedVariable [importStatement] []
        (declarationObject plainStyle sampleConfig)) sampleSource ∧
      (Extraction.config sampleSource).result = .ok sampleConfig := by
  have hs : ∀ node ∈ [importStatement] ++ [], Quiet node := by simp [importStatement]
  have hr : Padded (program .exportedVariable [importStatement] []
      (declarationObject plainStyle sampleConfig)) sampleSource :=
    .node rfl rfl (fun h => absurd h (by simp [program]))
      (.comment ⟨rfl, rfl, rfl⟩ (.refl _ _))
  exact ⟨hs, hr, config_of_written sampleConfig plainStyle .exportedVariable _ _ hs _ hr⟩

end ContentForms.Canonical
