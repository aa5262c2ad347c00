import ContentForms.OrderedMap
import ContentForms.Syntax.Node

namespace ContentForms.Syntax.Node

mutual

-- The node, then its children with what is under them, in order.
def preorder : Node → List Node
  | node@⟨_, _, _, _, _, _, children⟩ => node :: preorderAll children

def preorderAll : List Node → List Node
  | [] => []
  | node :: rest => preorder node ++ preorderAll rest

end

theorem preorder_eq (node : Node) : node.preorder = node :: preorderAll node.children := by
  cases node
  rw [preorder]

theorem preorderAll_append (nodes more : List Node) :
    preorderAll (nodes ++ more) = preorderAll nodes ++ preorderAll more := by
  induction nodes with
  | nil => simp [preorderAll]
  | cons node rest ih => simp [preorderAll, ih]

-- Puts nodes on a stack, whose top is its last node. The first of them is to be on top.
def stacked (stack : Array Node) (nodes : List Node) : Array Node := stack ++ nodes.reverse

-- One turn of the walk: the top of the stack is visited, and its children take its place.
def turn? (stack : Array Node) : Option (Node × Array Node) :=
  stack.back?.map fun node => (node, stacked stack.pop node.children)

-- The nodes that are still to come from a stack, in order.
def upcoming (stack : Array Node) : List Node := preorderAll stack.toList.reverse

theorem upcoming_stacked (stack : Array Node) (nodes : List Node) :
    upcoming (stacked stack nodes) = preorderAll nodes ++ upcoming stack := by
  simp [upcoming, stacked, preorderAll_append]

-- A turn visits the first of the nodes to come, and leaves the others to come.
theorem upcoming_of_turn? {stack rest : Array Node} {node : Node}
    (h : turn? stack = some (node, rest)) : upcoming stack = node :: upcoming rest := by
  obtain ⟨top, hback, hturn⟩ := Option.map_eq_some_iff.mp h
  obtain ⟨rfl, rfl⟩ := Prod.mk.inj hturn
  obtain ⟨below, rfl⟩ := Array.back?_eq_some_iff.mp hback
  have hpush : below.push top = stacked below [top] := by simp [stacked]
  rw [Array.pop_push, upcoming_stacked, hpush, upcoming_stacked, preorderAll, preorderAll,
    preorder_eq, List.append_nil, List.cons_append]

-- Turn after turn, until the stack is empty.
def drain (stack : Array Node) : List Node :=
  match _h : turn? stack with
  | none => []
  | some (node, rest) => node :: drain rest
termination_by (upcoming stack).length
decreasing_by simp [upcoming_of_turn? _h]

-- No more than the given number of turns.
def drainFirst : Nat → Array Node → List Node
  | 0, _ => []
  | turns + 1, stack =>
      match turn? stack with
      | none => []
      | some (node, rest) => node :: drainFirst turns rest

def walkFrom (nodes : List Node) : List Node := drain (stacked #[] nodes)

def walk (root : Node) : List Node := walkFrom [root]

-- Only the first `count` nodes are visited.
def walkFirst (count : Nat) (nodes : List Node) : List Node :=
  drainFirst count (stacked #[] nodes)

section Visitors

variable {m : Type → Type} [Monad m]

def visit (root : Node) (visitor : Node → m Unit) : m Unit := root.walk.forM visitor

-- Leaves a node to the handler for its kind, and passes over a node for which there is none.
def dispatcher (handlers : OrderedMap String (Node → m Unit)) (node : Node) : m Unit :=
  match handlers.get? node.kind with
  | none => pure ()
  | some handler => handler node

end Visitors

def collect (node : Node) : StateM (Array Node) Unit := modify fun found => found.push node

def ofKinds (kinds : List String) (root : Node) : List Node :=
  let handlers := OrderedMap.ofList (kinds.map fun kind => (kind, collect))
  (root.visit (dispatcher handlers) |>.run #[]).2.toList

end ContentForms.Syntax.Node
