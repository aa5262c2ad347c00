namespace ContentForms.Syntax

-- The text may be missing, since trees are also read from outside.
structure Node where
  kind : String
  named : Bool := true
  -- The part that the node plays in its parent.
  role : Option String := none
  text : Option String := none
  -- The line on which it starts, counted from zero.
  row : Nat := 0
  -- The byte at which it starts.
  offset : Nat := 0
  children : List Node := []
  deriving Inhabited

namespace Node

def textD (node : Node) : String := node.text.getD ""

-- A node without a text of its own reads as its children do, one after the other.
def withJoinedText (node : Node) : Node :=
  { node with text := some (node.children.foldl (fun text child => text ++ child.textD) "") }

def child? (node : Node) (role : String) : Option Node :=
  node.children.find? fun child => child.role = some role

def isComment (node : Node) : Bool := node.kind == "comment"

-- Comments are named nodes too; the operands of a node are its other named children.
def isOperand (node : Node) : Bool := node.named && !node.isComment

theorem sizeOf_lt_of_mem_children {child node : Node} (h : child ∈ node.children) :
    sizeOf child < sizeOf node := by
  have := List.sizeOf_lt_of_mem h
  cases node
  simp only [mk.sizeOf_spec] at *
  omega

theorem mem_children_of_child? {child node : Node} {role : String}
    (h : node.child? role = some child) : child ∈ node.children :=
  List.mem_of_find?_eq_some h

theorem sizeOf_lt_of_child? {child node : Node} {role : String}
    (h : node.child? role = some child) : sizeOf child < sizeOf node :=
  sizeOf_lt_of_mem_children (mem_children_of_child? h)

end Node

end ContentForms.Syntax
