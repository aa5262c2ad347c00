import ContentForms.Extraction
import ContentForms.Proofs.Schema

namespace ContentForms

namespace Traced

@[simp] theorem result_pure (a : α) : (Pure.pure a : Traced ε α).result = .ok a := rfl

@[simp] theorem result_pure' (a : α) : (Traced.pure a : Traced ε α).result = .ok a := rfl

@[simp] theorem result_report (event : Event) :
    (report event : Traced ε Unit).result = .ok () := rfl

@[simp] theorem result_ofExcept (result : Except ε α) : (ofExcept result).result = result := rfl

theorem result_bind_eq_ok {t : Traced ε α} {f : α → Traced ε β} {b : β} :
    (t >>= f).result = .ok b ↔ ∃ a, t.result = .ok a ∧ (f a).result = .ok b := by
  change (Traced.bind t f).result = .ok b ↔ _
  cases h : t.result <;> simp [Traced.bind, h]

end Traced

namespace Extraction

open Syntax

def schemaPairs (schema : Node) : List (String × Node) :=
  ((schemaObject? schema).map Node.namedPairs).getD []

def Named (pairs : List (String × Node)) : Prop := ∀ pair ∈ pairs, pair.1 ≠ ""

def resolved (pair : String × Node) : String × Field := (pair.1, Builder.resolve pair.2)

private theorem addField_of_nameless {pair : String × Node} (h : pair.1 = "") (table : FieldTable) :
    addField table pair = .error .emptyName := by
  rw [addField, SchemaField.make_eq_error.mpr ⟨h, rfl⟩]
  rfl

private theorem exists_addField {table : FieldTable} {pair : String × Node} (hp : table.Placed)
    (h : pair.1 ≠ "") :
    ∃ next, addField table pair = .ok next ∧ next.Placed ∧
      next.fields = table.fields.insert pair.1 (Builder.resolve pair.2) := by
  let field : SchemaField := ⟨Builder.resolve pair.2, pair.1, h⟩
  refine ⟨table.insert pair.1 field, ?_, hp.insert field, table.fields_insert pair.1 field⟩
  have hmake : SchemaField.make pair.1 (Builder.resolve pair.2) = .ok field :=
    SchemaField.make_eq_ok.mpr ⟨rfl, rfl⟩
  rw [addField, hmake]
  rfl

-- The table stays one with each field under its own name, which is what makes the fields determine
-- it.
private theorem foldlM_addField_eq_ok {pairs : List (String × Node)} {table final : FieldTable}
    (h : table.Placed) :
    pairs.foldlM addField table = .ok final ↔
      Named pairs ∧ final.Placed ∧ final.fields =
        (pairs.map resolved).foldl (fun m entry => m.insert entry.1 entry.2) table.fields := by
  induction pairs generalizing table with
  | nil =>
      have he : (pure table : Except SchemaError FieldTable) = .ok final ↔ table = final := by
        simp [pure, Except.pure]
      simp only [List.foldlM_nil, he, List.map_nil, List.foldl_nil]
      exact ⟨fun he => he ▸ ⟨by simp [Named], h, rfl⟩,
        fun ⟨_, hf, he⟩ => h.eq_of_fields hf he.symm⟩
  | cons pair rest ih =>
      rw [List.foldlM_cons]
      by_cases hn : pair.1 = ""
      · rw [addField_of_nameless hn]
        simp [bind, Except.bind, Named, hn]
      · obtain ⟨next, ha, hp, hf⟩ := exists_addField h hn
        rw [ha]
        simp only [bind, Except.bind, ih hp, List.map_cons, List.foldl_cons, hf, resolved]
        simp [Named, hn]

theorem tableOfPairs_eq_ok {pairs : List (String × Node)} {table : FieldTable} :
    tableOfPairs pairs = .ok table ↔ Named pairs ∧ table.Placed ∧
      table.fields = OrderedMap.ofList (pairs.map resolved) :=
  foldlM_addField_eq_ok FieldTable.placed_empty

-- A schema without an object of fields reads as one with an empty object.
theorem fields_eq_ok {schema : Node} {table : FieldTable} :
    (fields schema).result = .ok table ↔ Named (schemaPairs schema) ∧ table.Placed ∧
      table.fields = OrderedMap.ofList ((schemaPairs schema).map resolved) := by
  unfold fields schemaPairs
  cases schemaObject? schema with
  | none => exact @tableOfPairs_eq_ok [] table
  | some object => exact tableOfPairs_eq_ok

def valuesNamed (name : String) (pairs : List (String × Node)) : List Node :=
  pairs.filterMap fun pair => if pair.1 = name then some pair.2 else none

def kindAfter (kind : CollectionKind) (types : List Node) : CollectionKind :=
  if types.any fun type => type.stringValue? = some CollectionKind.data.name then .data else kind

theorem kindAfter_content_eq_data {types : List Node} :
    kindAfter .content types = .data ↔
      ∃ type ∈ types, type.stringValue? = some CollectionKind.data.name := by
  unfold kindAfter
  split <;> simp_all

-- The fields once all the given schemas have been seen: those of the last one.
def fieldsAfter (start : OrderedMap String Field) (schemas : List Node) :
    OrderedMap String Field :=
  (schemas.getLast?.map fun schema =>
    OrderedMap.ofList ((schemaPairs schema).map resolved)).getD start

private theorem fieldsAfter_cons (start : OrderedMap String Field) (schema : Node)
    (schemas : List Node) :
    fieldsAfter start (schema :: schemas) =
      fieldsAfter (OrderedMap.ofList ((schemaPairs schema).map resolved)) schemas := by
  cases h : schemas.getLast? <;> simp [fieldsAfter, List.getLast?_cons, h]

theorem Options.eq_iff {kind : CollectionKind} {table : FieldTable} {next : Options}
    (h : table.Placed) :
    ⟨kind, table⟩ = next ↔ next.kind = kind ∧ next.table.Placed ∧
      next.table.fields = table.fields := by
  obtain ⟨kind', table'⟩ := next
  rw [Options.mk.injEq]
  exact ⟨fun ⟨hk, ht⟩ => ht ▸ ⟨hk.symm, h, rfl⟩,
    fun ⟨hk, hp, hf⟩ => ⟨hk.symm, h.eq_of_fields hp hf.symm⟩⟩

theorem exists_table_fieldsAfter {table : FieldTable} (hp : table.Placed) {schemas : List Node}
    (h : ∀ schema ∈ schemas, Named (schemaPairs schema)) :
    ∃ next : FieldTable, next.Placed ∧ next.fields = fieldsAfter table.fields schemas := by
  unfold fieldsAfter
  cases hl : schemas.getLast? with
  | none => exact ⟨table, hp, rfl⟩
  | some schema =>
      refine FieldTable.exists_placed fun name hm => ?_
      rw [Option.map_some, Option.getD_some, OrderedMap.keys_ofList, List.mem_eraseDups,
        List.map_map] at hm
      obtain ⟨pair, hpair, rfl⟩ := List.mem_map.mp hm
      exact h schema (List.mem_of_getLast? hl) pair hpair

-- What one option does: it is a `type`, a `schema`, or of no account.
theorem read_eq_ok {options next : Options} {option : String × Node} (h : options.table.Placed) :
    (options.read option).result = .ok next ↔
      (∀ schema ∈ valuesNamed "schema" [option], Named (schemaPairs schema)) ∧
        next.kind = kindAfter options.kind (valuesNamed "type" [option]) ∧ next.table.Placed ∧
        next.table.fields =
          fieldsAfter options.table.fields (valuesNamed "schema" [option]) := by
  obtain ⟨kind, table⟩ := options
  unfold Options.read
  by_cases ht : option.1 = "type"
  · rw [if_pos ht, Traced.result_pure', Except.ok.injEq]
    by_cases hd : option.2.stringValue? = some CollectionKind.data.name
    · rw [if_pos hd, Options.eq_iff h]
      simp [ht, hd, valuesNamed, kindAfter, fieldsAfter]
    · rw [if_neg hd, Options.eq_iff h]
      simp [ht, hd, valuesNamed, kindAfter, fieldsAfter]
  · by_cases hs : option.1 = "schema"
    · have hv : valuesNamed "schema" [option] = [option.2] := by simp [valuesNamed, hs]
      have hn : valuesNamed "type" [option] = [] := by simp [valuesNamed, ht]
      rw [if_neg ht, if_pos hs, Traced.result_bind_eq_ok, hv, hn, fieldsAfter_cons]
      simp only [fields_eq_ok, Traced.result_pure, Except.ok.injEq]
      constructor
      · rintro ⟨read, ⟨hm, hp, hf⟩, rfl⟩
        exact ⟨by simpa using hm, rfl, hp, hf⟩
      · rintro ⟨hm, hk, hp, hf⟩
        exact ⟨next.table, ⟨hm _ (by simp), hp, hf⟩, (Options.eq_iff hp).mpr ⟨hk, hp, rfl⟩⟩
    · rw [if_neg ht, if_neg hs, Traced.result_pure', Except.ok.injEq, Options.eq_iff h]
      simp [ht, hs, valuesNamed, kindAfter, fieldsAfter]

theorem valuesNamed_cons (name : String) (pair : String × Node) (rest : List (String × Node)) :
    valuesNamed name (pair :: rest) = valuesNamed name [pair] ++ valuesNamed name rest := by
  by_cases h : pair.1 = name <;> simp [valuesNamed, h]

private theorem kindAfter_append (kind : CollectionKind) (types more : List Node) :
    kindAfter kind (types ++ more) = kindAfter (kindAfter kind types) more := by
  cases h : types.any fun type => type.stringValue? = some CollectionKind.data.name <;>
    simp [kindAfter, h]

private theorem fieldsAfter_append (start : OrderedMap String Field) (schemas more : List Node) :
    fieldsAfter start (schemas ++ more) = fieldsAfter (fieldsAfter start schemas) more := by
  cases h : more.getLast? <;> simp [fieldsAfter, List.getLast?_append, h]

-- The options are read from left to right, so what the later ones say is added last.
theorem readAll_eq_ok {options final : Options} {pairs : List (String × Node)}
    (h : options.table.Placed) :
    (options.readAll pairs).result = .ok final ↔
      (∀ schema ∈ valuesNamed "schema" pairs, Named (schemaPairs schema)) ∧
        final.kind = kindAfter options.kind (valuesNamed "type" pairs) ∧ final.table.Placed ∧
        final.table.fields = fieldsAfter options.table.fields (valuesNamed "schema" pairs) := by
  induction pairs generalizing options with
  | nil =>
      obtain ⟨kind, table⟩ := options
      rw [Options.readAll, Traced.result_pure', Except.ok.injEq, Options.eq_iff h]
      simp [valuesNamed, kindAfter, fieldsAfter]
  | cons pair rest ih =>
      rw [Options.readAll, Traced.result_bind_eq_ok, valuesNamed_cons "schema",
        valuesNamed_cons "type", kindAfter_append, fieldsAfter_append]
      simp only [read_eq_ok h, List.forall_mem_append]
      constructor
      · rintro ⟨next, ⟨hn, hk, hp, hf⟩, hrest⟩
        obtain ⟨hr, hk', hp', hf'⟩ := (ih hp).mp hrest
        exact ⟨⟨hn, hr⟩, hk ▸ hk', hp', hf ▸ hf'⟩
      · rintro ⟨⟨hn, hr⟩, hk, hp', hf⟩
        obtain ⟨table, hp, ht⟩ := exists_table_fieldsAfter h hn
        exact ⟨⟨kindAfter options.kind (valuesNamed "type" [pair]), table⟩, ⟨hn, rfl, hp, ht⟩,
          (ih hp).mpr ⟨hr, hk, hp', by rw [ht]; exact hf⟩⟩

def optionPairs (call : Node) : List (String × Node) :=
  (call.firstObjectArgument?.map Node.namedPairs).getD []

def schemas (call : Node) : List Node := valuesNamed "schema" (optionPairs call)

-- The pairs that the fields of a declared collection are read from: those of its last schema.
def fieldPairs (call : Node) : List (String × Node) :=
  ((schemas call).getLast?.map schemaPairs).getD []

theorem fieldsAfter_empty (call : Node) :
    fieldsAfter .empty (schemas call) = OrderedMap.ofList ((fieldPairs call).map resolved) := by
  unfold fieldsAfter fieldPairs
  cases (schemas call).getLast? <;> rfl

-- The table that the options leave has each field under its own name, so the check lets it pass.
theorem collectionOfCall_eq_ok {call : Node} {collection : Collection} :
    (collectionOfCall call).result = .ok collection ↔
      (∀ schema ∈ schemas call, Named (schemaPairs schema)) ∧
        collection.kind = kindAfter .content (valuesNamed "type" (optionPairs call)) ∧
        collection.fields = OrderedMap.ofList ((fieldPairs call).map resolved) := by
  rw [collectionOfCall, Traced.result_bind_eq_ok, ← fieldsAfter_empty]
  simp only [Traced.result_ofExcept, Collection.ofTable_eq_ok]
  constructor
  · rintro ⟨options, ho, -, hkind, hfields⟩
    obtain ⟨hn, hk, -, hf⟩ := (readAll_eq_ok FieldTable.placed_empty).mp ho
    exact ⟨hn, hkind.trans hk, hfields.trans hf⟩
  · rintro ⟨hn, hk, hf⟩
    obtain ⟨table, hp, ht⟩ := FieldTable.exists_placed collection.named
    exact ⟨⟨collection.kind, table⟩,
      (readAll_eq_ok FieldTable.placed_empty).mpr ⟨hn, hk, hp, ht.trans hf⟩, hp, rfl, ht.symm⟩

def declaredCalls (entries : List (String × Node)) : List (String × Node) :=
  entries.filterMap fun entry => entry.2.asCall?.map fun call => (entry.1, call)

def Declares (calls : List (String × Node)) (collections : List (String × Collection)) : Prop :=
  List.Forall₂ (fun call entry =>
    call.1 = entry.1 ∧ (collectionOfCall call.2).result = .ok entry.2) calls collections

private theorem addEntry_of_asCall?_none {entry : String × Node} (h : entry.2.asCall? = none)
    (collections final : OrderedMap String Collection) :
    (addEntry collections entry).result = .ok final ↔ final = collections := by
  rw [addEntry, Traced.result_bind_eq_ok]
  simp only [collection?, h, Traced.result_pure', Except.ok.injEq, exists_eq_left']
  rw [Traced.result_bind_eq_ok]
  simp [eq_comm]

private theorem addEntry_of_asCall? {entry : String × Node} {call : Node}
    (h : entry.2.asCall? = some call) (collections final : OrderedMap String Collection) :
    (addEntry collections entry).result = .ok final ↔
      ∃ collection, (collectionOfCall call).result = .ok collection ∧
        final = collections.insert entry.1 collection := by
  rw [addEntry, Traced.result_bind_eq_ok]
  simp only [collection?, h]
  constructor
  · rintro ⟨found, hf, hr⟩
    obtain ⟨collection, hc, he⟩ := Traced.result_bind_eq_ok.mp hf
    simp only [Traced.result_pure, Except.ok.injEq] at he
    subst he
    obtain ⟨_, -, hr⟩ := Traced.result_bind_eq_ok.mp hr
    simp only [Traced.result_pure, Except.ok.injEq] at hr
    exact ⟨collection, hc, hr.symm⟩
  · rintro ⟨collection, hc, rfl⟩
    exact ⟨some collection, Traced.result_bind_eq_ok.mpr ⟨collection, hc, rfl⟩,
      Traced.result_bind_eq_ok.mpr ⟨(), rfl, rfl⟩⟩

-- Entries that are no calls are passed over; all others have to declare a collection.
theorem addEntries_eq_ok {entries : List (String × Node)}
    {start final : OrderedMap String Collection} :
    (addEntries start entries).result = .ok final ↔
      ∃ collections, Declares (declaredCalls entries) collections ∧
        final = collections.foldl (fun m entry => m.insert entry.1 entry.2) start := by
  induction entries generalizing start with
  | nil => simp [addEntries, declaredCalls, Declares, eq_comm]
  | cons entry rest ih =>
      rw [addEntries, Traced.result_bind_eq_ok]
      simp only [ih]
      cases hc : entry.2.asCall? with
      | none =>
          have hd : declaredCalls (entry :: rest) = declaredCalls rest := by
            simp [declaredCalls, hc]
          simp only [addEntry_of_asCall?_none hc, exists_eq_left, hd]
      | some call =>
          have hd : declaredCalls (entry :: rest) = (entry.1, call) :: declaredCalls rest := by
            simp [declaredCalls, hc]
          simp only [addEntry_of_asCall? hc, hd, Declares, List.forall₂_cons_left_iff]
          constructor
          · rintro ⟨_, ⟨collection, hr, rfl⟩, collections, hs, rfl⟩
            exact ⟨_, ⟨(entry.1, collection), collections, ⟨rfl, hr⟩, hs, rfl⟩, rfl⟩
          · rintro ⟨_, ⟨⟨name, collection⟩, collections, ⟨rfl, hr⟩, hs, rfl⟩, rfl⟩
            exact ⟨_, ⟨collection, hr, rfl⟩, collections, hs, rfl⟩

-- The whole of reading a tree. Faults are reported but change nothing in the result.
theorem config_eq_ok {root : Node} {config : Config} :
    (Extraction.config root).result = .ok config ↔
      match Declaration.locate? root with
      | none => config = Config.empty
      | some object => ∃ collections, Declares (declaredCalls object.namedPairs) collections ∧
          config.collections = OrderedMap.ofList collections := by
  have hf : (reportFaults root).result = .ok () := by
    unfold reportFaults
    split <;> rfl
  rw [Extraction.config, Traced.result_bind_eq_ok]
  simp only [hf, exists_const, true_and]
  cases Declaration.locate? root with
  | none =>
      rw [Traced.result_bind_eq_ok]
      simp [eq_comm]
  | some object =>
      rw [Traced.result_bind_eq_ok]
      simp only [addEntries_eq_ok, Traced.result_pure, Except.ok.injEq]
      constructor
      · rintro ⟨_, ⟨collections, hs, rfl⟩, rfl⟩
        exact ⟨collections, hs, rfl⟩
      · rintro ⟨collections, hs, hc⟩
        exact ⟨_, ⟨collections, hs, rfl⟩, by cases config; cases hc; rfl⟩

end Extraction

end ContentForms
