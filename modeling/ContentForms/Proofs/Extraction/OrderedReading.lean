import ContentForms.Proofs.Extraction.Canonical

namespace ContentForms.Extraction

open Syntax Syntax.Written

structure Declared (call : Node) (collection : Collection) : Prop where
  kind : collection.kind = .data ↔
    ∃ type ∈ valuesNamed "type" (optionPairs call),
      type.stringValue? = some CollectionKind.data.name
  fields : OrderedMap.Reads (fun definition field => field = Builder.resolve definition)
    (fieldPairs call) collection.fields
  named : ∀ name ∈ collection.fields.keys, name ≠ ""

def distinctFields (call : Node) : Nat := ((fieldPairs call).map Prod.fst).eraseDups.length

-- The fields of a declaration, counted without the calls that a later one replaces.
def declaredFields (calls : List (String × Node)) : Nat :=
  ((calls.map Prod.fst).eraseDups.map fun name =>
    ((calls.reverse.lookup name).map distinctFields).getD 0).foldr (· + ·) 0

theorem declared_of_collectionOfCall {call : Node} {collection : Collection}
    (h : (collectionOfCall call).result = .ok collection) : Declared call collection := by
  obtain ⟨-, hk, hf⟩ := collectionOfCall_eq_ok.mp h
  refine ⟨?_, ?_, collection.named⟩
  · rw [hk, kindAfter_content_eq_data]
  · rw [hf]
    refine OrderedMap.reads_ofList ?_
    rw [List.forall₂_map_right_iff, List.forall₂_same]
    exact fun pair _ => ⟨rfl, rfl⟩

theorem Declared.size_eq {call : Node} {collection : Collection} (h : Declared call collection) :
    collection.size = distinctFields call := by
  rw [distinctFields, ← h.fields.keys]
  simp [Collection.size, OrderedMap.size, OrderedMap.keys]

private theorem fieldCount_eq_foldr (config : Config) :
    config.fieldCount = (config.collections.values.map Collection.size).foldr (· + ·) 0 := by
  rw [Config.fieldCount, List.foldr_map]

theorem fieldCount_of_reads {calls : List (String × Node)} {config : Config}
    (h : OrderedMap.Reads Declared calls config.collections) :
    config.fieldCount = declaredFields calls := by
  rw [fieldCount_eq_foldr, OrderedMap.map_values, h.keys, declaredFields]
  congr 1
  refine List.map_congr_left fun name _ => ?_
  have hv := h.values name
  generalize calls.reverse.lookup name = call at hv ⊢
  generalize config.collections.get? name = collection at hv ⊢
  cases hv with
  | none => rfl
  | some hd => simp [hd.size_eq]

-- Names stand in the order in which they first come, and hold what comes last under them: a
-- collection its last call, a field its last definition in the last schema of that call.
theorem config_reads_declaration {root : Node} {config : Config}
    (h : (Extraction.config root).result = .ok config) :
    match Declaration.locate? root with
    | none => config = Config.empty
    | some object =>
        OrderedMap.Reads Declared (declaredCalls object.namedPairs) config.collections ∧
          config.fieldCount = declaredFields (declaredCalls object.namedPairs) := by
  rw [config_eq_ok] at h
  cases hl : Declaration.locate? root with
  | none => simpa only [hl] using h
  | some object =>
      simp only [hl] at h
      obtain ⟨collections, hd, hc⟩ := h
      have hr : OrderedMap.Reads Declared (declaredCalls object.namedPairs)
          config.collections := by
        rw [hc]
        exact OrderedMap.reads_ofList
          (hd.imp fun _ _ hp => ⟨hp.1, declared_of_collectionOfCall hp.2⟩)
      exact ⟨hr, fieldCount_of_reads hr⟩

def schemaOf (fields : List (String × Node)) : Node :=
  call (member (identifier "z") "object") [object fields]

-- Names that come twice, with another call or none at all, and a schema that replaces another.
def repeatedSource : Node :=
  Canonical.program .plainVariable [] [] (object
    [("posts", call (identifier "f") []),
      ("notes", call (identifier "f")
        [object [("schema", schemaOf [("x", methodChain "string" [])])]]),
      ("posts", call (identifier "f") [object
        [("schema", schemaOf [("z", methodChain "date" [])]),
          ("schema", schemaOf [("y", methodChain "date" []), ("x", methodChain "number" []),
            ("y", methodChain "array" ["optional"])])]]),
      ("notes", identifier "g")])

def repeatedConfig : Config :=
  ⟨⟨[("posts", ⟨.content, ⟨[("y", ⟨.array, true⟩), ("x", ⟨.number, false⟩)], by decide⟩,
      by decide⟩),
    ("notes", ⟨.content, ⟨[("x", ⟨.text, false⟩)], by decide⟩, by decide⟩)], by decide⟩⟩

theorem config_reads_repeated_names :
    (config repeatedSource).result = .ok repeatedConfig ∧
      match Declaration.locate? repeatedSource with
      | none => repeatedConfig = Config.empty
      | some object =>
          OrderedMap.Reads Declared (declaredCalls object.namedPairs) repeatedConfig.collections ∧
            repeatedConfig.fieldCount = declaredFields (declaredCalls object.namedPairs) := by
  have h : (config repeatedSource).result = .ok repeatedConfig := by decide +kernel
  exact ⟨h, config_reads_declaration h⟩

end ContentForms.Extraction
