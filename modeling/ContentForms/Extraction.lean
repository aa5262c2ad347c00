import ContentForms.Builder
import ContentForms.Declaration
import ContentForms.Log

namespace ContentForms.Extraction

open Syntax

-- The object with the fields of a schema: an argument of the first call of its chain.
def schemaObject? (schema : Node) : Option Node :=
  match schema.chain.getLast? with
  | some first => first.call.firstObjectArgument?
  | none => schema.asCall?.bind Node.firstObjectArgument?

def addField (table : FieldTable) (pair : String × Node) : Except SchemaError FieldTable := do
  let field ← SchemaField.make pair.1 (Builder.resolve pair.2)
  return table.insert pair.1 field

def tableOfPairs (pairs : List (String × Node)) : Except SchemaError FieldTable :=
  pairs.foldlM addField FieldTable.empty

-- The fields of a schema. One that has no object of fields has no fields, and is reported.
def fields (schema : Node) : Traced SchemaError FieldTable :=
  match schemaObject? schema with
  | none => do
      Traced.report .schemaSkipped
      return FieldTable.empty
  | some object => Traced.ofExcept (tableOfPairs object.namedPairs)

structure Options where
  kind : CollectionKind := .content
  table : FieldTable := FieldTable.empty

-- A `type` can only turn the kind to data; a `schema` replaces the fields read before.
def Options.read (options : Options) (option : String × Node) : Traced SchemaError Options :=
  if option.1 = "type" then
    Traced.pure (if option.2.stringValue? = some CollectionKind.data.name
      then { options with kind := .data } else options)
  else if option.1 = "schema" then do
    let table ← fields option.2
    return { options with table := table }
  else Traced.pure options

def Options.readAll (options : Options) : List (String × Node) → Traced SchemaError Options
  | [] => Traced.pure options
  | option :: rest => do (← options.read option).readAll rest

def collectionOfCall (call : Node) : Traced SchemaError Collection := do
  let options ← Options.readAll {} ((call.firstObjectArgument?.map Node.namedPairs).getD [])
  Traced.ofExcept (Collection.ofTable options.kind options.table)

def collection? (node : Node) : Traced SchemaError (Option Collection) :=
  match node.asCall? with
  | none => Traced.pure none
  | some call => do return some (← collectionOfCall call)

-- One entry of the declaration. What is not a call is passed over.
def addEntry (collections : OrderedMap String Collection) (entry : String × Node) :
    Traced SchemaError (OrderedMap String Collection) := do
  match ← collection? entry.2 with
  | none =>
      Traced.report (.skipped entry.1)
      return collections
  | some collection =>
      Traced.report (.collection entry.1 collection.kind collection.size)
      return collections.insert entry.1 collection

def addEntries (collections : OrderedMap String Collection) :
    List (String × Node) → Traced SchemaError (OrderedMap String Collection)
  | [] => Traced.pure collections
  | entry :: rest => do addEntries (← addEntry collections entry) rest

-- The faults of a tree are its error nodes, nested ones included.
def faults (root : Node) : List Node := root.ofKinds ["ERROR"]

def reportFaults (root : Node) : Traced SchemaError Unit :=
  match faults root with
  | [] => Traced.pure ()
  | first :: rest => Traced.report (.syntaxErrors (rest.length + 1) (first.row + 1))

def config (root : Node) : Traced SchemaError Config := do
  reportFaults root
  match Declaration.locate? root with
  | none =>
      Traced.report .noCollections
      return Config.empty
  | some object => return ⟨← addEntries .empty object.namedPairs⟩

end ContentForms.Extraction
