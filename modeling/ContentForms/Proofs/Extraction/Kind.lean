import ContentForms.Proofs.Extraction.Refusal
import ContentForms.Proofs.Syntax.Shape

namespace ContentForms.Extraction

open Syntax Syntax.Written

def typeValues (call : Node) : List Node := valuesNamed "type" (optionPairs call)

-- The value is a string literal that reads `data` between its quotes.
def SaysData (value : Node) : Prop :=
  ∃ literal opening closing, value.UnwrapsTo "string" literal ∧
    literal.textD.toList = opening :: ("data".toList ++ [closing])

section Kind

variable {node call : Node} {collection : Collection}

theorem saysData_iff {value : Node} :
    SaysData value ↔ value.stringValue? = some CollectionKind.data.name :=
  Node.stringValue?_eq_some.symm

theorem collection?_eq_ok (hc : node.asCall? = some call) :
    (collection? node).result = .ok (some collection) ↔
      (collectionOfCall call).result = .ok collection := by
  simp only [collection?, hc]
  rw [Traced.result_bind_eq_ok]
  simp only [Traced.result_pure, Except.ok.injEq, Option.some.injEq, exists_eq_right]

theorem kind_eq_data_iff (h : (collectionOfCall call).result = .ok collection) :
    collection.kind = .data ↔ ∃ value ∈ typeValues call, SaysData value := by
  rw [(declared_of_collectionOfCall h).kind]
  simp only [typeValues, saysData_iff]

private theorem kind_eq_content_of_nil (h : (collectionOfCall call).result = .ok collection)
    (hn : typeValues call = []) : collection.kind = .content := by
  cases hk : collection.kind with
  | content => rfl
  | data =>
      obtain ⟨value, hm, -⟩ := (kind_eq_data_iff h).mp hk
      rw [hn] at hm
      cases hm

-- The last option is overruled exactly if it does not say data and an earlier one does.
private theorem last_decides_iff (h : (collectionOfCall call).result = .ok collection)
    {earlier : List Node} {last : Node} (hs : typeValues call = earlier ++ [last]) :
    (collection.kind = .data ↔ SaysData last) ↔
      (SaysData last ∨ ∀ value ∈ earlier, ¬ SaysData value) := by
  have hk : collection.kind = .data ↔ (∃ value ∈ earlier, SaysData value) ∨ SaysData last := by
    rw [kind_eq_data_iff h, hs]
    simp only [List.mem_append, List.mem_singleton, or_and_right, exists_or, exists_eq_left]
  rw [hk]
  by_cases hl : SaysData last <;> simp [hl]

end Kind

-- An option that says data settles the kind, wherever it stands and whatever comes after. The last
-- option alone decides only where none before it says data.
theorem kind_of_typeValues {node call : Node} (hc : node.asCall? = some call) :
    ((∃ collection, (collection? node).result = .ok (some collection)) ↔
        ∀ schema ∈ schemas call, Named (schemaPairs schema)) ∧
      ∀ collection, (collection? node).result = .ok (some collection) →
        (collection.kind = .data ↔ ∃ value ∈ typeValues call, SaysData value) ∧
        (typeValues call = [] → collection.kind = .content) ∧
        ∀ earlier last, typeValues call = earlier ++ [last] →
          ((collection.kind = .data ↔ SaysData last) ↔
            (SaysData last ∨ ∀ value ∈ earlier, ¬ SaysData value)) := by
  simp only [collection?_eq_ok hc, exists_collectionOfCall, true_and]
  intro collection h
  exact ⟨kind_eq_data_iff h, kind_eq_content_of_nil h, fun _ _ => last_decides_iff h⟩

section Sample

-- `defineCollection({ type: first, type: second })`
def typedTwice (first second : CollectionKind) : Node :=
  call (identifier "defineCollection")
    [object [("type", string first.name), ("type", string second.name)]]

theorem asCall?_typedTwice (first second : CollectionKind) :
    (typedTwice first second).asCall? = some (typedTwice first second) :=
  asKind?_of_kind rfl (by decide)

theorem typeValues_typedTwice (first second : CollectionKind) :
    typeValues (typedTwice first second) =
      [placed "value" (string first.name)] ++ [placed "value" (string second.name)] := by
  have ho : (typedTwice first second).firstObjectArgument? = some _ := firstObjectArgument?_call rfl
  rw [typeValues, optionPairs, ho, Option.map_some, Option.getD_some, namedPairs_object rfl]
  rfl

theorem saysData_string (kind : CollectionKind) :
    SaysData (placed "value" (string kind.name)) ↔ kind = .data := by
  rw [saysData_iff, stringValue?_string]
  cases kind <;> decide

theorem collection?_typedTwice (first second : CollectionKind) :
    (collection? (typedTwice first second)).result =
      .ok (some (.empty (if first = .data ∨ second = .data then .data else .content))) := by
  cases first <;> cases second <;> decide +kernel

-- The last option decides when it is the one that says data.
theorem kind_of_data_last :
    (typedTwice .content .data).asCall? = some (typedTwice .content .data) ∧
      (collection? (typedTwice .content .data)).result = .ok (some (.empty .data)) ∧
      ((Collection.empty .data).kind = .data ↔
        SaysData (placed "value" (string CollectionKind.data.name))) := by
  have hc := asCall?_typedTwice .content .data
  have hr := collection?_typedTwice .content .data
  obtain ⟨-, -, hlast⟩ := (kind_of_typeValues hc).2 _ hr
  refine ⟨hc, hr, (hlast _ _ (typeValues_typedTwice _ _)).mpr (.inl ?_)⟩
  exact (saysData_string .data).mpr rfl

-- An earlier option that says data is not taken back by a later one.
theorem last_type_overruled :
    ¬ ∀ node call collection, node.asCall? = some call →
      (collection? node).result = .ok (some collection) →
      (collection.kind = .data ↔
        ∃ last, (typeValues call).getLast? = some last ∧ SaysData last) := by
  intro h
  have hk := h _ _ _ (asCall?_typedTwice .data .content) (collection?_typedTwice .data .content)
  obtain ⟨last, hl, hs⟩ := hk.mp rfl
  rw [typeValues_typedTwice, List.getLast?_concat, Option.some.injEq] at hl
  subst hl
  cases (saysData_string .content).mp hs

end Sample

end ContentForms.Extraction
