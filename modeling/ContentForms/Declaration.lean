import ContentForms.Syntax.Shape
import ContentForms.Syntax.Walk

namespace ContentForms.Declaration

open Syntax

def collectionsName : String := "collections"

-- `const collections = { ... }`
def ofDeclarator? (node : Node) : Option Node :=
  match node.child? "name" with
  | none => none
  | some name =>
      if name.kind = "identifier" ∧ name.textD = collectionsName then
        (node.child? "value").bind Node.asObject?
      else none

-- The object that an export holds, or hands to a call.
def exportedObject? (value : Node) : Option Node :=
  match value.asObject? with
  | some object => some object
  | none => value.asCall?.bind Node.firstObjectArgument?

-- `export default { collections: { ... } }`; only the first pair of that name counts.
def ofExport? (node : Node) : Option Node := do
  let value ← node.child? "value"
  let holder ← exportedObject? value
  let (_, entry) ← holder.namedPairs.find? fun pair => pair.1 = collectionsName
  entry.asObject?

-- The object that a reader finds at the first node of a kind where it finds any.
def firstFound? (kind : String) (reader : Node → Option Node) (nodes : List Node) : Option Node :=
  nodes.findSome? fun node => if node.kind = kind then reader node else none

-- A declared variable anywhere in the source is preferred to any export.
def locate? (root : Node) : Option Node :=
  match firstFound? "variable_declarator" ofDeclarator? root.walk with
  | some object => some object
  | none => firstFound? "export_statement" ofExport? root.walk

end ContentForms.Declaration
