import ContentForms.Proofs.Extraction.Kind
import ContentForms.Proofs.Syntax.Walk

namespace ContentForms

namespace Traced

@[simp] theorem events_pure (a : α) : (Pure.pure a : Traced ε α).events = [] := rfl

@[simp] theorem events_pure' (a : α) : (Traced.pure a : Traced ε α).events = [] := rfl

@[simp] theorem events_report (event : Event) : (report event : Traced ε Unit).events = [event] :=
  rfl

-- What comes after a result is reported after what led to it.
theorem events_bind {t : Traced ε α} {f : α → Traced ε β} {a : α} (h : t.result = .ok a) :
    (t >>= f).events = t.events ++ (f a).events := by
  change (Traced.bind t f).events = _
  simp only [Traced.bind, h]

theorem events_bind_pure (t : Traced ε α) (f : α → β) :
    (t >>= fun a => Pure.pure (f a)).events = t.events := by
  change (Traced.bind t _).events = _
  cases h : t.result <;> simp [Traced.bind, h]

end Traced

namespace Event

private theorem shownAt_debug (event : Event) : event.shownAt .debug = true := by
  cases event <;> rfl

end Event

namespace Extraction

open Syntax Syntax.Written

def errorNodes (root : Node) : List Node := root.preorder.filter fun node => node.kind = "ERROR"

-- One event for all faults together: how many there are, and the line of the first, from one on.
def faultEvents (root : Node) : List Event :=
  ((errorNodes root).head?.map fun first =>
    .syntaxErrors (errorNodes root).length (1 + first.row)).toList

def schemaEvents (schemas : List Node) : List Event :=
  (schemas.filter fun schema => (schemaObject? schema).isNone).map fun _ => .schemaSkipped

def entryEvents (entry : String × Node) : List Event :=
  match entry.2.asCall? with
  | none => [.skipped entry.1]
  | some call =>
      schemaEvents (schemas call) ++
        [.collection entry.1 (kindAfter .content (typeValues call)) (distinctFields call)]

def declarationEvents (root : Node) : List Event :=
  match Declaration.locate? root with
  | none => [.noCollections]
  | some object => object.namedPairs.flatMap entryEvents

section Steps

theorem events_reportFaults (root : Node) : (reportFaults root).events = faultEvents root := by
  have hfaults : faults root = errorNodes root := by
    simp [faults, errorNodes, Node.ofKinds_eq_filter]
  unfold reportFaults faultEvents
  rw [hfaults]
  cases errorNodes root with
  | nil => rfl
  | cons first rest => simp [Nat.add_comm]

theorem events_fields (schema : Node) : (fields schema).events = schemaEvents [schema] := by
  unfold fields schemaEvents
  cases h : schemaObject? schema with
  | none =>
      rw [Traced.events_bind (Traced.result_report _)]
      simp [h]
  | some object => simp [Traced.ofExcept, h]

-- Only a `schema` is ever reported among the options.
theorem events_read (options : Options) (option : String × Node) :
    (options.read option).events = schemaEvents (valuesNamed "schema" [option]) := by
  unfold Options.read
  by_cases ht : option.1 = "type"
  · rw [if_pos ht, Traced.events_pure']
    simp [valuesNamed, ht, schemaEvents]
  · by_cases hs : option.1 = "schema"
    · rw [if_neg ht, if_pos hs, Traced.events_bind_pure, events_fields]
      simp [valuesNamed, hs]
    · rw [if_neg ht, if_neg hs, Traced.events_pure']
      simp [valuesNamed, hs, schemaEvents]

private theorem schemaEvents_append (schemas more : List Node) :
    schemaEvents (schemas ++ more) = schemaEvents schemas ++ schemaEvents more := by
  simp [schemaEvents]

theorem events_readAll {options final : Options} {pairs : List (String × Node)}
    (h : (options.readAll pairs).result = .ok final) :
    (options.readAll pairs).events = schemaEvents (valuesNamed "schema" pairs) := by
  induction pairs generalizing options with
  | nil => rfl
  | cons pair rest ih =>
      rw [Options.readAll] at h ⊢
      obtain ⟨next, hn, hr⟩ := Traced.result_bind_eq_ok.mp h
      rw [Traced.events_bind hn, events_read, ih hr, valuesNamed_cons "schema" pair rest,
        schemaEvents_append]

theorem events_collectionOfCall {call : Node} {collection : Collection}
    (h : (collectionOfCall call).result = .ok collection) :
    (collectionOfCall call).events = schemaEvents (schemas call) := by
  unfold collectionOfCall at h ⊢
  obtain ⟨options, ho, -⟩ := Traced.result_bind_eq_ok.mp h
  rw [Traced.events_bind ho, events_readAll ho]
  exact List.append_nil _

-- One entry: what its call reports, then the collection as this call declares it.
theorem events_addEntry {collections next : OrderedMap String Collection} {entry : String × Node}
    (h : (addEntry collections entry).result = .ok next) :
    (addEntry collections entry).events = entryEvents entry := by
  unfold addEntry at h ⊢
  obtain ⟨found, hf, -⟩ := Traced.result_bind_eq_ok.mp h
  rw [Traced.events_bind hf]
  cases hc : entry.2.asCall? with
  | none =>
      simp only [collection?, hc, Traced.result_pure', Except.ok.injEq] at hf
      subst hf
      simp only [collection?, entryEvents, hc, Traced.events_pure', List.nil_append,
        Traced.events_bind_pure, Traced.events_report]
  | some call =>
      simp only [collection?, hc] at hf
      obtain ⟨collection, hr, he⟩ := Traced.result_bind_eq_ok.mp hf
      simp only [Traced.result_pure, Except.ok.injEq] at he
      subst he
      have hkind : collection.kind = kindAfter .content (typeValues call) :=
        (collectionOfCall_eq_ok.mp hr).2.1
      have hsize := (declared_of_collectionOfCall hr).size_eq
      simp only [collection?, entryEvents, hc, Traced.events_bind_pure, Traced.events_report,
        events_collectionOfCall hr, hkind, hsize]

theorem events_addEntries {collections final : OrderedMap String Collection}
    {entries : List (String × Node)} (h : (addEntries collections entries).result = .ok final) :
    (addEntries collections entries).events = entries.flatMap entryEvents := by
  induction entries generalizing collections with
  | nil => rfl
  | cons entry rest ih =>
      rw [addEntries] at h ⊢
      obtain ⟨next, hn, hr⟩ := Traced.result_bind_eq_ok.mp h
      rw [Traced.events_bind hn, events_addEntry hn, ih hr, List.flatMap_cons]

theorem events_config {root : Node} {c : Config} (h : (config root).result = .ok c) :
    (config root).events = faultEvents root ++ declarationEvents root := by
  unfold config at h ⊢
  obtain ⟨_, hf, hr⟩ := Traced.result_bind_eq_ok.mp h
  rw [Traced.events_bind hf, events_reportFaults, declarationEvents]
  cases hl : Declaration.locate? root with
  | none => rfl
  | some object =>
      simp only [hl] at hr
      obtain ⟨collections, ha, -⟩ := Traced.result_bind_eq_ok.mp hr
      simp only [Traced.events_bind_pure, events_addEntries ha]

end Steps

section Levels

private theorem filter_debug (events : List Event) :
    events.filter (Event.shownAt .debug) = events :=
  List.filter_eq_self.mpr fun event _ => event.shownAt_debug

private theorem filter_faultEvents (root : Node) :
    (faultEvents root).filter (Event.shownAt .warning) = faultEvents root := by
  unfold faultEvents
  cases (errorNodes root).head? <;> rfl

-- Of the declaration nothing is worth a warning.
private theorem filter_declarationEvents (root : Node) :
    (declarationEvents root).filter (Event.shownAt .warning) = [] := by
  have hentry : ∀ entry, (entryEvents entry).filter (Event.shownAt .warning) = [] := by
    intro entry
    unfold entryEvents
    cases entry.2.asCall? with
    | none => rfl
    | some call =>
        rw [List.filter_append, schemaEvents, List.filter_map]
        simp [Function.comp_def, Event.shownAt, Event.level, Level.rank]
  unfold declarationEvents
  cases Declaration.locate? root with
  | none => rfl
  | some object => simp [List.filter_flatMap, hentry]

end Levels

section Names

private theorem collection_mem_entryEvents {entry : String × Node} {name : String} :
    (∃ kind fields, Event.collection name kind fields ∈ entryEvents entry) ↔
      entry.1 = name ∧ entry.2.asCall?.isSome := by
  unfold entryEvents
  cases entry.2.asCall? with
  | none => simp
  | some call => simp [schemaEvents, eq_comm]

private theorem collection_mem_declarationEvents {root : Node} {name : String} :
    (∃ kind fields, Event.collection name kind fields ∈ declarationEvents root) ↔
      ∃ object, Declaration.locate? root = some object ∧
        ∃ entry ∈ object.namedPairs, entry.1 = name ∧ entry.2.asCall?.isSome := by
  unfold declarationEvents
  cases Declaration.locate? root with
  | none => simp
  | some object =>
      simp only [List.mem_flatMap, Option.some.injEq, exists_eq_left',
        ← collection_mem_entryEvents]
      constructor
      · rintro ⟨kind, fields, entry, he, hm⟩
        exact ⟨entry, he, kind, fields, hm⟩
      · rintro ⟨entry, he, kind, fields, hm⟩
        exact ⟨kind, fields, entry, he, hm⟩

private theorem collection_notMem_faultEvents {root : Node} {name : String} {kind : CollectionKind}
    {fields : Nat} : Event.collection name kind fields ∉ faultEvents root := by
  unfold faultEvents
  cases (errorNodes root).head? <;> simp

end Names

-- The faults of the whole tree come first, in one event. An entry that is a call is told last of
-- all, after each of its schemas that has no object of fields.
theorem config_events_exact {root : Node} {c : Config} (h : (config root).result = .ok c) :
    (config root).events.filter (Event.shownAt .debug) =
        faultEvents root ++ declarationEvents root ∧
      (config root).events.filter (Event.shownAt .warning) = faultEvents root ∧
      ∀ name, name ∈ c.collections.keys ↔
        ∃ kind fields, Event.collection name kind fields ∈ (config root).events := by
  rw [events_config h]
  refine ⟨filter_debug _, ?_, fun name => ?_⟩
  · rw [List.filter_append, filter_faultEvents, filter_declarationEvents, List.append_nil]
  · simp only [List.mem_append, collection_notMem_faultEvents, false_or,
      collection_mem_declarationEvents, mem_keys_of_config h]

section Sample

-- An error inside an error on the third line, before a declaration with names that come twice, an
-- entry that is no call, and schemas without an object of fields.
def faultySource : Node :=
  Canonical.program .plainVariable
    [{ kind := "ERROR", row := 2, children := [{ kind := "ERROR", row := 4 }] }] []
    (object
      [("posts", call (identifier "f") [object
          [("schema", identifier "s"), ("schema", schemaOf [("x", methodChain "date" [])]),
            ("schema", identifier "t")]]),
        ("drafts", identifier "f"),
        ("posts", call (identifier "f") [object
          [("schema", identifier "s"), ("type", string "data"),
            ("schema", schemaOf [("y", methodChain "date" []), ("x", methodChain "number" []),
              ("y", methodChain "array" [])])]])])

def faultyConfig : Config :=
  ⟨⟨[("posts", ⟨.data, ⟨[("y", ⟨.array, false⟩), ("x", ⟨.number, false⟩)], by decide⟩,
    by decide⟩)], by decide⟩⟩

-- The first `posts` is told with a kind and a number of fields that the config no longer has.
theorem config_events_faultySource :
    (config faultySource).result = .ok faultyConfig ∧
      (config faultySource).events.filter (Event.shownAt .debug) =
        [.syntaxErrors 2 3, .schemaSkipped, .schemaSkipped, .collection "posts" .content 0,
          .skipped "drafts", .schemaSkipped, .collection "posts" .data 2] ∧
      "posts" ∈ faultyConfig.collections.keys := by
  have h : (config faultySource).result = .ok faultyConfig := by decide +kernel
  obtain ⟨hevents, -, hnames⟩ := config_events_exact h
  refine ⟨h, hevents.trans (by decide +kernel), (hnames "posts").mpr ?_⟩
  rw [events_config h]
  exact ⟨.data, 2, by decide +kernel⟩

end Sample

end Extraction

end ContentForms
