import ContentForms.Schema
import ContentForms.Syntax.Chain

namespace ContentForms.Builder

open Syntax

def types : List (String × FieldType) :=
  [("string", .text), ("number", .number), ("boolean", .boolean), ("date", .date),
    ("array", .array)]

def typeOf (method : String) : FieldType := (lookupEntry method types).getD .unknown

-- The methods that let a value be absent.
def markers : List String := ["optional", "nullable", "nullish"]

def isMarker (method : String) : Bool := markers.contains method

theorem sizeOf_lt_of_firstArgument {link : Link} {argument node : Node}
    (hl : node.chain.getLast? = some link) (ha : link.call.callArguments.head? = some argument) :
    sizeOf argument < sizeOf node := by
  have h₁ := Node.sizeOf_lt_of_mem_callArguments (List.mem_of_head? ha)
  have h₂ := Node.sizeOf_call_le_of_mem_chain node (List.mem_of_getLast? hl)
  omega

-- The first method of the chain builds the value and gives the type; a marker anywhere in the chain
-- makes the field optional. A marker may also stand first, as a function around the expression that
-- gives the type: `z.optional(z.string())`.
def resolve (node : Node) : Field :=
  match _hl : node.chain.getLast? with
  | none => {}
  | some first =>
      if isMarker first.method then
        match _ha : first.call.callArguments.head? with
        | none => { type := .unknown, optional := true }
        | some argument => { type := (resolve argument).type, optional := true }
      else
        { type := typeOf first.method, optional := node.chain.any fun link => isMarker link.method }
termination_by sizeOf node
decreasing_by exact sizeOf_lt_of_firstArgument _hl _ha

def resolveAny (node : Option Node) : Field := (node.map resolve).getD {}

end ContentForms.Builder
