import ContentForms.OrderedMap
import ContentForms.Text.Quoted

namespace ContentForms

-- The type of a field, as far as its builder tells.
inductive FieldType where
  | text | number | boolean | date | array | unknown
  deriving DecidableEq, Inhabited, Repr

namespace FieldType

def all : List FieldType := [text, number, boolean, date, array, unknown]

def name : FieldType → String
  | text => "text"
  | number => "number"
  | boolean => "boolean"
  | date => "date"
  | array => "array"
  | unknown => "unknown"

def ofName? (given : String) : Option FieldType := all.find? fun type => type.name == given

end FieldType

-- Whether the entries of a collection are documents or plain data.
inductive CollectionKind where
  | content | data
  deriving DecidableEq, Inhabited, Repr

namespace CollectionKind

def name : CollectionKind → String
  | content => "content"
  | data => "data"

def ofName? (given : String) : Option CollectionKind :=
  [content, data].find? fun kind => kind.name == given

end CollectionKind

-- What is known of a field besides its name.
structure Field where
  type : FieldType := .unknown
  optional : Bool := false
  deriving DecidableEq, Inhabited, Repr

inductive SchemaError where
  | emptyName
  | misplaced (name key : String)
  | unknownType (given : String)
  | unknownKind (given : String)
  deriving DecidableEq, Repr

def SchemaError.message : SchemaError → String
  | .emptyName => "Schema field name must be non-empty"
  | .misplaced name key =>
      "Schema field " ++ Text.quoted name ++ " stored under key " ++ Text.quoted key
  | .unknownType given => Text.quoted given ++ " is not a valid FieldType"
  | .unknownKind given => Text.quoted given ++ " is not a valid CollectionKind"

-- A collection: its kind, and its fields under their names.
structure Collection where
  kind : CollectionKind := .content
  fields : OrderedMap String Field
  named : ∀ name ∈ fields.keys, name ≠ ""

namespace Collection

def empty (kind : CollectionKind) : Collection := ⟨kind, .empty, by simp⟩

instance : Inhabited Collection := ⟨empty .content⟩

theorem ext {c d : Collection} (hk : c.kind = d.kind) (hf : c.fields = d.fields) : c = d := by
  cases c; cases d; cases hk; cases hf; rfl

instance : DecidableEq Collection := fun c d =>
  if h : c.kind = d.kind ∧ c.fields = d.fields then isTrue (ext h.1 h.2)
  else isFalse fun e => h ⟨congrArg kind e, congrArg fields e⟩

def size (collection : Collection) : Nat := collection.fields.size

end Collection

structure Config where
  collections : OrderedMap String Collection
  deriving DecidableEq

namespace Config

def empty : Config := ⟨.empty⟩

instance : Inhabited Config := ⟨empty⟩

def fieldCount (config : Config) : Nat :=
  config.collections.values.foldr (fun collection count => collection.size + count) 0

end Config

-- A field of a schema that knows its own name.
structure SchemaField extends Field where
  name : String
  nonempty : name ≠ ""

namespace SchemaField

instance : Coe SchemaField Field := ⟨toField⟩

def make (name : String) (field : Field) : Except SchemaError SchemaField :=
  if h : name = "" then .error .emptyName else .ok ⟨field, name, h⟩

end SchemaField

-- Fields under keys. Nothing here says that a field stands under its own name.
structure FieldTable where
  keyed : OrderedMap String SchemaField

namespace FieldTable

def empty : FieldTable := ⟨.empty⟩

instance : Inhabited FieldTable := ⟨empty⟩

def insert (table : FieldTable) (key : String) (field : SchemaField) : FieldTable :=
  ⟨table.keyed.insert key field⟩

def fields (table : FieldTable) : OrderedMap String Field := table.keyed.map SchemaField.toField

def misplaced? (table : FieldTable) : Option (String × SchemaField) :=
  table.keyed.entries.find? fun entry => entry.2.name ≠ entry.1

theorem named_of_misplaced? {table : FieldTable} (h : table.misplaced? = none) :
    ∀ name ∈ table.fields.keys, name ≠ "" := by
  intro name hm
  rw [fields, OrderedMap.keys_map] at hm
  obtain ⟨entry, he, rfl⟩ := List.mem_map.mp hm
  have hname : entry.2.name = entry.1 := by simpa using List.find?_eq_none.mp h entry he
  exact hname ▸ entry.2.nonempty

end FieldTable

-- A field as it is handed in from outside: the key it stands under, and what it says of itself.
structure FieldSpec where
  key : String
  name : String
  type : String
  optional : Bool

namespace FieldSpec

-- The type is looked at before the name.
def check (spec : FieldSpec) : Except SchemaError SchemaField :=
  match FieldType.ofName? spec.type with
  | none => .error (.unknownType spec.type)
  | some type => SchemaField.make spec.name ⟨type, spec.optional⟩

end FieldSpec

namespace Collection

-- The first field that stands under another key than its own name is refused.
def ofTable (kind : CollectionKind) (table : FieldTable) : Except SchemaError Collection :=
  match h : table.misplaced? with
  | some entry => .error (.misplaced entry.2.name entry.1)
  | none => .ok ⟨kind, table.fields, FieldTable.named_of_misplaced? h⟩

-- All fields are checked one by one first; of those under one key the last counts.
def ofSpecs (kindName : String) (specs : List FieldSpec) : Except SchemaError Collection := do
  let some kind := CollectionKind.ofName? kindName | .error (.unknownKind kindName)
  let checked ← specs.mapM fun spec => do return (spec.key, ← spec.check)
  ofTable kind ⟨OrderedMap.ofList checked⟩

end Collection

end ContentForms
