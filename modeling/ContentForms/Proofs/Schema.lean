import ContentForms.Proofs.OrderedMap
import ContentForms.Schema

namespace ContentForms

namespace SchemaField

theorem ext {s t : SchemaField} (hn : s.name = t.name) (hf : s.toField = t.toField) : s = t := by
  cases s; cases t; cases hn; cases hf; rfl

theorem make_eq_ok {name : String} {field : Field} {made : SchemaField} :
    make name field = .ok made ↔ made.name = name ∧ made.toField = field := by
  unfold make
  split
  · rename_i h
    simpa using fun hn : made.name = name => absurd (hn.trans h) made.nonempty
  · rw [Except.ok.injEq]
    exact ⟨fun h => h ▸ ⟨rfl, rfl⟩, fun h => ext h.1.symm h.2.symm⟩

theorem make_eq_error {name : String} {field : Field} {e : SchemaError} :
    make name field = .error e ↔ name = "" ∧ e = .emptyName := by
  unfold make
  split <;> simp_all [eq_comm]

end SchemaField

namespace FieldTable

def Placed (table : FieldTable) : Prop := ∀ entry ∈ table.keyed.entries, entry.2.name = entry.1

theorem misplaced?_eq_none {table : FieldTable} : table.misplaced? = none ↔ table.Placed := by
  simp [misplaced?, Placed]

theorem placed_empty : empty.Placed := by
  intro entry hm
  cases hm

theorem Placed.insert {table : FieldTable} (h : table.Placed) (field : SchemaField) :
    (table.insert field.name field).Placed := by
  intro entry hm
  rcases mem_of_mem_putEntry hm with rfl | hm
  · rfl
  · exact h entry hm

theorem fields_insert (table : FieldTable) (key : String) (field : SchemaField) :
    (table.insert key field).fields = table.fields.insert key field.toField :=
  OrderedMap.map_insert _ _ _ _

-- Where each field stands under its name, the names say nothing that the keys do not say.
theorem Placed.eq_of_fields {s t : FieldTable} (hs : s.Placed) (ht : t.Placed)
    (h : s.fields = t.fields) : s = t := by
  obtain ⟨⟨xs, hxs⟩⟩ := s
  obtain ⟨⟨ys, hys⟩⟩ := t
  have hmap : xs.map (fun entry => (entry.1, entry.2.toField)) =
      ys.map fun entry => (entry.1, entry.2.toField) := congrArg OrderedMap.entries h
  have hlist : xs = ys := by
    refine List.ext_getElem (by simpa using congrArg List.length hmap) fun i hx hy => ?_
    have hi : (xs[i].1, xs[i].2.toField) = (ys[i].1, ys[i].2.toField) := by
      simpa [hx, hy] using congrArg (fun entries => entries[i]?) hmap
    obtain ⟨hkey, hfield⟩ := Prod.mk.inj hi
    have hname : xs[i].2.name = ys[i].2.name :=
      (hs _ (List.getElem_mem hx)).trans (hkey.trans (ht _ (List.getElem_mem hy)).symm)
    exact Prod.ext hkey (SchemaField.ext hname hfield)
  subst hlist
  rfl

-- Fields with names make a table, each under its own.
theorem exists_placed {m : OrderedMap String Field} (h : ∀ name ∈ m.keys, name ≠ "") :
    ∃ table : FieldTable, table.Placed ∧ table.fields = m := by
  obtain ⟨entries, hentries⟩ := m
  have hname : ∀ entry ∈ entries, entry.1 ≠ "" := fun entry hm =>
    h entry.1 (List.mem_map.mpr ⟨entry, hm, rfl⟩)
  let named : List (String × SchemaField) :=
    entries.pmap (fun entry hn => (entry.1, ⟨entry.2, entry.1, hn⟩)) hname
  have hkeys : named.map Prod.fst = entries.map Prod.fst := by
    simp [named, List.map_pmap]
  have hfields : named.map (fun entry => (entry.1, entry.2.toField)) = entries := by
    simp [named, List.map_pmap]
  refine ⟨⟨⟨named, hkeys ▸ hentries⟩⟩, fun entry hm => ?_, OrderedMap.ext hfields⟩
  obtain ⟨_, _, rfl⟩ := List.mem_pmap.mp hm
  rfl

end FieldTable

theorem CollectionKind.ofName?_name (kind : CollectionKind) : ofName? kind.name = some kind := by
  cases kind <;> rfl

theorem FieldType.ofName?_name (type : FieldType) : ofName? type.name = some type := by
  cases type <;> rfl

namespace Collection

-- The check passes exactly the tables with each field under its own name, and keeps the fields.
theorem ofTable_eq_ok {kind : CollectionKind} {table : FieldTable} {collection : Collection} :
    ofTable kind table = .ok collection ↔
      table.Placed ∧ collection.kind = kind ∧ collection.fields = table.fields := by
  unfold ofTable
  split
  · rename_i entry h
    have hn : ¬ table.Placed := by simp [← FieldTable.misplaced?_eq_none, h]
    simp [hn]
  · rename_i h
    rw [Except.ok.injEq, and_iff_right (FieldTable.misplaced?_eq_none.mp h)]
    exact ⟨fun he => he ▸ ⟨rfl, rfl⟩, fun he => ext he.1.symm he.2.symm⟩

example : ofTable .content ⟨⟨[("a", ⟨⟨.text, false⟩, "b", by decide⟩)], by decide⟩⟩ =
    .error (.misplaced "b" "a") := by decide

theorem exists_ofTable {table : FieldTable} (h : table.Placed) (kind : CollectionKind) :
    ∃ collection, ofTable kind table = .ok collection :=
  ⟨⟨kind, table.fields, FieldTable.named_of_misplaced? (FieldTable.misplaced?_eq_none.mpr h)⟩,
    ofTable_eq_ok.mpr ⟨h, rfl, rfl⟩⟩

-- The fields as they would be handed in from outside, each under its own name.
def specs (collection : Collection) : List FieldSpec :=
  collection.fields.entries.map fun entry => ⟨entry.1, entry.1, entry.2.type.name, entry.2.optional⟩

private theorem mapM_check_specs {entries : List (String × SchemaField)}
    (h : ∀ entry ∈ entries, entry.2.name = entry.1) :
    (entries.map fun entry => (⟨entry.1, entry.1, entry.2.type.name, entry.2.optional⟩ :
        FieldSpec)).mapM (fun spec => do return (spec.key, ← spec.check)) =
      (.ok entries : Except SchemaError (List (String × SchemaField))) := by
  induction entries with
  | nil => rfl
  | cons entry rest ih =>
      rw [List.forall_mem_cons] at h
      have hcheck : FieldSpec.check ⟨entry.1, entry.1, entry.2.type.name, entry.2.optional⟩ =
          .ok entry.2 := by
        simp only [FieldSpec.check, FieldType.ofName?_name]
        exact SchemaField.make_eq_ok.mpr ⟨h.1, rfl⟩
      simp only [List.map_cons, List.mapM_cons, hcheck, bind, Except.bind, pure,
        Except.pure] at ih ⊢
      rw [ih h.2]

theorem ofSpecs_specs (collection : Collection) :
    ofSpecs collection.kind.name collection.specs = .ok collection := by
  obtain ⟨table, hplaced, hfields⟩ := FieldTable.exists_placed collection.named
  have hspecs : collection.specs = table.keyed.entries.map fun entry =>
      ⟨entry.1, entry.1, entry.2.type.name, entry.2.optional⟩ := by
    rw [specs, ← hfields]
    exact List.map_map
  simp only [ofSpecs, CollectionKind.ofName?_name, hspecs]
  rw [mapM_check_specs hplaced]
  simp only [bind, Except.bind, OrderedMap.ofList_entries]
  exact ofTable_eq_ok.mpr ⟨hplaced, rfl, hfields.symm⟩

end Collection

end ContentForms
