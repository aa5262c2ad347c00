import ContentForms.Json.Value
import ContentForms.Log

namespace ContentForms

open Json

def Field.toJson (name : String) (field : Field) : Json :=
  .object [("name", .string name), ("type", .string field.type.name),
    ("optional", .bool field.optional)]

def Collection.toJson (collection : Collection) : Json :=
  .object [("kind", .string collection.kind.name),
    ("fields", .object (collection.fields.entries.map fun (name, field) =>
      (name, field.toJson name)))]

-- Every collection under its name, every field under its name, in order.
def Config.toJson (config : Config) : Json :=
  .object [("collections", .object (config.collections.entries.map fun (name, collection) =>
    (name, collection.toJson)))]

-- What an event says besides its name and level.
def Event.details : Event → List (String × Json)
  | .syntaxErrors count firstLine => [("count", ofNat count), ("first_line", ofNat firstLine)]
  | .noCollections => []
  | .skipped entry =>
      [("collection", .string entry), ("reason", .string "not_call_expression")]
  | .schemaSkipped => [("reason", .string "not_object_call")]
  | .collection name kind fields =>
      [("collection", .string name), ("kind", .string kind.name), ("fields", ofNat fields)]
  | .reading path size => [("path", .string path), ("size", ofNat size)]
  | .started source => [("source", .string source)]
  | .configNotFound path => [("path", .string path)]
  | .ended output collections fields outcome =>
      [("output", .string output), ("collections", ofNat collections), ("fields", ofNat fields),
        ("outcome", .string outcome.name)]
  | .requestRejected path size limit =>
      [("path", .string path), ("reason", .string "body_too_large"), ("size", .int size),
        ("limit", .int limit)]

def Event.toJson (event : Event) : Json :=
  .object (event.details ++ [("event", .string event.name), ("level", .string event.level.name)])

end ContentForms
