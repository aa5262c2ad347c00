import ContentForms.Proofs.Extraction.OrderedReading

namespace ContentForms

namespace Traced

-- There is only one cause that the computation can fail by.
def FailsOnlyBy (t : Traced ε α) (cause : ε) : Prop := ∀ e, t.result = .error e → e = cause

theorem failsOnlyBy_of_ok {t : Traced ε α} {a : α} (h : t.result = .ok a) (cause : ε) :
    t.FailsOnlyBy cause := by
  intro e he
  rw [h] at he
  cases he

theorem FailsOnlyBy.bind {t : Traced ε α} {f : α → Traced ε β} {cause : ε}
    (ht : t.FailsOnlyBy cause) (hf : ∀ a, t.result = .ok a → (f a).FailsOnlyBy cause) :
    (t >>= f).FailsOnlyBy cause := by
  intro e he
  change (Traced.bind t f).result = .error e at he
  cases hr : t.result with
  | error d =>
      simp only [Traced.bind, hr, Except.error.injEq] at he
      exact he ▸ ht d hr
  | ok a =>
      simp only [Traced.bind, hr] at he
      exact hf a hr e he

end Traced

namespace Extraction

open Syntax Syntax.Written

section Cause

private theorem error_of_foldlM_addField {pairs : List (String × Node)} {table : FieldTable}
    {e : SchemaError} (h : pairs.foldlM addField table = .error e) : e = .emptyName := by
  induction pairs generalizing table with
  | nil => cases h
  | cons pair rest ih =>
      rw [List.foldlM_cons] at h
      cases hm : SchemaField.make pair.1 (Builder.resolve pair.2) with
      | error d =>
          simp only [addField, hm, bind, Except.bind, Except.error.injEq] at h
          exact h ▸ (SchemaField.make_eq_error.mp hm).2
      | ok field =>
          simp only [addField, hm, bind, Except.bind, pure, Except.pure] at h
          exact ih h

theorem fields_failsOnlyBy (schema : Node) : (fields schema).FailsOnlyBy .emptyName := by
  unfold fields
  split
  · exact Traced.failsOnlyBy_of_ok rfl _
  · exact fun _ he => error_of_foldlM_addField he

theorem read_failsOnlyBy (options : Options) (option : String × Node) :
    (options.read option).FailsOnlyBy .emptyName := by
  unfold Options.read
  split
  · exact Traced.failsOnlyBy_of_ok rfl _
  · split
    · exact (fields_failsOnlyBy option.2).bind fun _ _ => Traced.failsOnlyBy_of_ok rfl _
    · exact Traced.failsOnlyBy_of_ok rfl _

theorem readAll_failsOnlyBy (options : Options) (pairs : List (String × Node)) :
    (options.readAll pairs).FailsOnlyBy .emptyName := by
  induction pairs generalizing options with
  | nil => exact Traced.failsOnlyBy_of_ok rfl _
  | cons pair rest ih =>
      rw [Options.readAll]
      exact (read_failsOnlyBy options pair).bind fun next _ => ih next

-- The table that the options leave has passed through `addField` alone, so its check never fails.
theorem exists_ofTable_of_options {call : Node} {options : Options}
    (h : (Options.readAll {} (optionPairs call)).result = .ok options) (kind : CollectionKind) :
    ∃ collection, Collection.ofTable kind options.table = .ok collection :=
  Collection.exists_ofTable ((readAll_eq_ok FieldTable.placed_empty).mp h).2.2.1 kind

theorem collectionOfCall_failsOnlyBy (call : Node) :
    (collectionOfCall call).FailsOnlyBy .emptyName := by
  refine (readAll_failsOnlyBy _ _).bind fun options ho => ?_
  obtain ⟨collection, hc⟩ := exists_ofTable_of_options ho options.kind
  exact Traced.failsOnlyBy_of_ok hc _

theorem collection?_failsOnlyBy (node : Node) : (collection? node).FailsOnlyBy .emptyName := by
  unfold collection?
  split
  · exact Traced.failsOnlyBy_of_ok rfl _
  · exact (collectionOfCall_failsOnlyBy _).bind fun _ _ => Traced.failsOnlyBy_of_ok rfl _

theorem addEntry_failsOnlyBy (collections : OrderedMap String Collection)
    (entry : String × Node) : (addEntry collections entry).FailsOnlyBy .emptyName := by
  refine (collection?_failsOnlyBy entry.2).bind fun found _ => ?_
  cases found with
  | none => exact Traced.failsOnlyBy_of_ok rfl _
  | some _ => exact Traced.failsOnlyBy_of_ok rfl _

theorem addEntries_failsOnlyBy (collections : OrderedMap String Collection)
    (entries : List (String × Node)) :
    (addEntries collections entries).FailsOnlyBy .emptyName := by
  induction entries generalizing collections with
  | nil => exact Traced.failsOnlyBy_of_ok rfl _
  | cons entry rest ih =>
      rw [addEntries]
      exact (addEntry_failsOnlyBy collections entry).bind fun next _ => ih next

theorem config_failsOnlyBy (root : Node) : (config root).FailsOnlyBy .emptyName := by
  intro e he
  rw [(config_parts root).1] at he
  unfold readDeclaration at he
  split at he
  · cases he
  · exact ((addEntries_failsOnlyBy _ _).bind fun _ _ => Traced.failsOnlyBy_of_ok rfl _) e he

end Cause

section Condition

-- A declared call makes a collection as soon as every field in its schemas has a name.
theorem exists_collectionOfCall {call : Node} :
    (∃ collection, (collectionOfCall call).result = .ok collection) ↔
      ∀ schema ∈ schemas call, Named (schemaPairs schema) := by
  simp only [collectionOfCall_eq_ok]
  constructor
  · rintro ⟨_, hn, -⟩
    exact hn
  · intro hn
    obtain ⟨table, hp, ht⟩ := exists_table_fieldsAfter FieldTable.placed_empty hn
    obtain ⟨collection, hc⟩ := Collection.exists_ofTable hp
      (kindAfter .content (valuesNamed "type" (optionPairs call)))
    obtain ⟨-, hk, hf⟩ := Collection.ofTable_eq_ok.mp hc
    exact ⟨collection, hn, hk, hf.trans (ht.trans (fieldsAfter_empty call))⟩

private theorem exists_declares {calls : List (String × Node)} :
    (∃ collections, Declares calls collections) ↔
      ∀ call ∈ calls, ∀ schema ∈ schemas call.2, Named (schemaPairs schema) := by
  induction calls with
  | nil => simp [Declares]
  | cons call rest ih =>
      rw [List.forall_mem_cons, ← ih, ← exists_collectionOfCall]
      simp only [Declares, List.forall₂_cons_left_iff]
      constructor
      · rintro ⟨_, entry, collections, ⟨-, hc⟩, hr, -⟩
        exact ⟨⟨_, hc⟩, collections, hr⟩
      · rintro ⟨⟨collection, hc⟩, collections, hr⟩
        exact ⟨_, (call.1, collection), collections, ⟨rfl, hc⟩, hr, rfl⟩

-- Where a field without a name can stand so that it counts.
def HasNamelessField (root : Node) : Prop :=
  ∃ object, Declaration.locate? root = some object ∧
    ∃ entry ∈ object.namedPairs, ∃ call, entry.2.asCall? = some call ∧
      ∃ options, call.firstObjectArgument? = some options ∧
        ∃ option ∈ options.namedPairs, option.1 = "schema" ∧
          ∃ fields, schemaObject? option.2 = some fields ∧
            ∃ field ∈ fields.namedPairs, field.1 = ""

theorem mem_declaredCalls {entries : List (String × Node)} {call : String × Node} :
    call ∈ declaredCalls entries ↔
      ∃ entry ∈ entries, entry.1 = call.1 ∧ entry.2.asCall? = some call.2 := by
  obtain ⟨name, node⟩ := call
  simp only [declaredCalls, List.mem_filterMap, Option.map_eq_some_iff, Prod.mk.injEq]
  constructor
  · rintro ⟨entry, he, found, hf, hn, rfl⟩
    exact ⟨entry, he, hn, hf⟩
  · rintro ⟨entry, he, hn, hf⟩
    exact ⟨entry, he, node, hf, hn, rfl⟩

theorem mem_schemas {call schema : Node} :
    schema ∈ schemas call ↔ ∃ options, call.firstObjectArgument? = some options ∧
      ∃ option ∈ options.namedPairs, option.1 = "schema" ∧ option.2 = schema := by
  unfold schemas valuesNamed optionPairs
  cases call.firstObjectArgument? <;> simp [List.mem_filterMap]

theorem named_schemaPairs {schema : Node} :
    Named (schemaPairs schema) ↔
      ∀ fields, schemaObject? schema = some fields → ∀ field ∈ fields.namedPairs, field.1 ≠ "" := by
  unfold Named schemaPairs
  cases schemaObject? schema <;> simp

-- The conditions of the single readers, put together along the tree.
theorem exists_config_iff (root : Node) :
    (∃ c, (config root).result = .ok c) ↔ ¬ HasNamelessField root := by
  simp only [config_eq_ok, HasNamelessField]
  cases Declaration.locate? root with
  | none => simp
  | some object =>
      have hc : (∃ c : Config, ∃ collections,
          Declares (declaredCalls object.namedPairs) collections ∧
            c.collections = OrderedMap.ofList collections) ↔
          ∃ collections, Declares (declaredCalls object.namedPairs) collections :=
        ⟨fun ⟨_, collections, hd, _⟩ => ⟨collections, hd⟩,
          fun ⟨collections, hd⟩ => ⟨⟨_⟩, collections, hd, rfl⟩⟩
      simp only [Option.some.injEq, exists_eq_left']
      rw [hc, exists_declares]
      constructor
      · rintro hn ⟨entry, he, call, hcall, options, ho, option, hop, hs, fields, hf, field, hm, h⟩
        have hmem : (entry.1, call) ∈ declaredCalls object.namedPairs :=
          mem_declaredCalls.mpr ⟨entry, he, rfl, hcall⟩
        have hschema := hn _ hmem option.2 (mem_schemas.mpr ⟨options, ho, option, hop, hs, rfl⟩)
        exact named_schemaPairs.mp hschema fields hf field hm h
      · intro hn call hm schema hs
        obtain ⟨entry, he, -, hcall⟩ := mem_declaredCalls.mp hm
        obtain ⟨options, ho, option, hop, hk, rfl⟩ := mem_schemas.mp hs
        refine named_schemaPairs.mpr fun fields hf field hfield h => hn ?_
        exact ⟨entry, he, call.2, hcall, options, ho, option, hop, hk, fields, hf, field, hfield, h⟩

theorem Declares.names_eq {calls : List (String × Node)} {collections : List (String × Collection)}
    (h : Declares calls collections) : collections.map Prod.fst = calls.map Prod.fst := by
  induction h with
  | nil => rfl
  | cons hp _ ih => rw [List.map_cons, List.map_cons, hp.1, ih]

-- Any name makes a collection if a call stands under it, also the empty one.
theorem mem_keys_of_config {root : Node} {c : Config} (h : (config root).result = .ok c)
    (name : String) :
    name ∈ c.collections.keys ↔ ∃ object, Declaration.locate? root = some object ∧
      ∃ entry ∈ object.namedPairs, entry.1 = name ∧ entry.2.asCall?.isSome := by
  rw [config_eq_ok] at h
  cases hl : Declaration.locate? root with
  | none =>
      simp only [hl] at h
      simp [h, Config.empty]
  | some object =>
      simp only [hl] at h
      obtain ⟨collections, hd, hc⟩ := h
      rw [hc, OrderedMap.keys_ofList, List.mem_eraseDups, hd.names_eq]
      simp only [List.mem_map, mem_declaredCalls, Option.some.injEq, exists_eq_left',
        Option.isSome_iff_exists]
      constructor
      · rintro ⟨call, ⟨entry, he, hn, hcall⟩, rfl⟩
        exact ⟨entry, he, hn, call.2, hcall⟩
      · rintro ⟨entry, he, hn, call, hcall⟩
        exact ⟨(name, call), ⟨entry, he, hn, hcall⟩, rfl⟩

end Condition

-- The one cause is a field without a name, in any schema of any declared call, also in one that a
-- later schema replaces. The fields that a call declares always pass the check of their places.
theorem config_refused_iff (root : Node) :
    (∀ e, (config root).result = .error e ↔ e = .emptyName ∧ HasNamelessField root) ∧
      SchemaError.emptyName.message = "Schema field name must be non-empty" ∧
      ((∃ c, (config root).result = .ok c) ↔ ¬ HasNamelessField root) ∧
      (∀ call options, (Options.readAll {} (optionPairs call)).result = .ok options →
        ∃ collection, Collection.ofTable options.kind options.table = .ok collection) ∧
      (∀ name key, (config root).result ≠ .error (.misplaced name key)) ∧
      ∀ c, (config root).result = .ok c →
        ("" ∈ c.collections.keys ↔ ∃ object, Declaration.locate? root = some object ∧
          ∃ entry ∈ object.namedPairs, entry.1 = "" ∧ entry.2.asCall?.isSome) := by
  refine ⟨fun e => ⟨fun he => ⟨config_failsOnlyBy root e he, ?_⟩, ?_⟩, rfl, exists_config_iff root,
    fun call options ho => exists_ofTable_of_options ho options.kind, fun name key he => ?_,
    fun c hc => mem_keys_of_config hc ""⟩
  · by_contra hn
    obtain ⟨c, hc⟩ := (exists_config_iff root).mpr hn
    rw [he] at hc
    cases hc
  · rintro ⟨rfl, hn⟩
    cases hr : (config root).result with
    | error e => rw [config_failsOnlyBy root e hr]
    | ok c => exact absurd hn ((exists_config_iff root).mp ⟨c, hr⟩)
  · cases config_failsOnlyBy root _ he

-- A nameless field in a schema that is replaced, under the empty name.
def namelessSource : Node :=
  Canonical.program .plainVariable [] [] (object
    [("", call (identifier "f") [object
      [("schema", schemaOf [("", methodChain "string" [])]),
        ("schema", schemaOf [("x", methodChain "string" [])])]])])

theorem config_refuses_replaced_schema :
    (config namelessSource).result = .error .emptyName ∧ HasNamelessField namelessSource := by
  have h : (config namelessSource).result = .error .emptyName := by decide +kernel
  exact ⟨h, (((config_refused_iff namelessSource).1 _).mp h).2⟩

end Extraction

end ContentForms
