import ContentForms.Proofs.OrderedMap
import ContentForms.Proofs.Syntax.Preorder

namespace ContentForms.Syntax.Node

theorem preorderAll_eq_flatMap (nodes : List Node) :
    preorderAll nodes = nodes.flatMap preorder := by
  induction nodes with
  | nil => rfl
  | cons node rest ih => rw [preorderAll, ih, List.flatMap_cons]

section Turns

theorem drainFirst_eq_take (turns : Nat) (stack : Array Node) :
    drainFirst turns stack = (upcoming stack).take turns := by
  induction turns generalizing stack with
  | zero => rfl
  | succ turns ih =>
      rw [drainFirst]
      cases h : turn? stack with
      | none => rw [upcoming_of_turn?_none h, List.take_nil]
      | some turn =>
          obtain ⟨node, rest⟩ := turn
          rw [upcoming_of_turn? h, List.take_succ_cons, ← ih rest]

-- The stack that a number of turns leaves. There is no turn on an empty stack.
def stackAfter : Nat → Array Node → Array Node
  | 0, stack => stack
  | turns + 1, stack =>
      match turn? stack with
      | none => stack
      | some (_, rest) => stackAfter turns rest

theorem upcoming_stackAfter (turns : Nat) (stack : Array Node) :
    upcoming (stackAfter turns stack) = (upcoming stack).drop turns := by
  induction turns generalizing stack with
  | zero => rfl
  | succ turns ih =>
      rw [stackAfter]
      cases h : turn? stack with
      | none => rw [upcoming_of_turn?_none h, List.drop_nil]
      | some turn =>
          obtain ⟨node, rest⟩ := turn
          rw [upcoming_of_turn? h, List.drop_succ_cons, ← ih rest]

-- Nothing is to come only when nothing is left on the stack, since each turn visits a node.
private theorem upcoming_eq_nil_iff {stack : Array Node} : upcoming stack = [] ↔ stack = #[] := by
  constructor
  · intro h
    cases hturn : turn? stack with
    | none => rwa [turn?, Option.map_eq_none_iff, Array.back?_eq_none_iff] at hturn
    | some turn =>
        rw [upcoming_of_turn? hturn] at h
        exact absurd h (List.cons_ne_nil _ _)
  · rintro rfl
    rfl

-- A walk ends, after as many turns as it visits nodes.
theorem stackAfter_eq_empty_iff (turns : Nat) (stack : Array Node) :
    stackAfter turns stack = #[] ↔ (drain stack).length ≤ turns := by
  rw [← upcoming_eq_nil_iff, upcoming_stackAfter, List.drop_eq_nil_iff, drain_eq_upcoming]

end Turns

section Places

def at? (node : Node) : List Nat → Option Node
  | [] => some node
  | index :: path => node.children[index]?.bind fun child => child.at? path

mutual

-- The nodes of a tree, each with the path to it, in pre-order.
def places : Node → List (List Nat × Node)
  | node@⟨_, _, _, _, _, _, children⟩ => ([], node) :: placesFrom 0 children

def placesFrom : Nat → List Node → List (List Nat × Node)
  | _, [] => []
  | index, node :: rest =>
      (places node).map (fun place => (index :: place.1, place.2)) ++ placesFrom (index + 1) rest

end

theorem places_eq (node : Node) : node.places = ([], node) :: placesFrom 0 node.children := by
  cases node
  rw [places]

mutual

theorem map_snd_places : (node : Node) → node.places.map Prod.snd = node.preorder
  | ⟨kind, named, role, text, row, offset, children⟩ => by
      rw [places, preorder, List.map_cons, map_snd_placesFrom 0 children]

theorem map_snd_placesFrom : (index : Nat) → (nodes : List Node) →
    (placesFrom index nodes).map Prod.snd = preorderAll nodes
  | _, [] => rfl
  | index, node :: rest => by
      rw [placesFrom, preorderAll, List.map_append, List.map_map, ← map_snd_places node,
        ← map_snd_placesFrom (index + 1) rest]
      rfl

end

-- A path below a node begins with the number of a child and goes on inside this child.
theorem mem_placesFrom {path : List Nat} {inner : Node} {index : Nat} {nodes : List Node} :
    (path, inner) ∈ placesFrom index nodes ↔
      ∃ number below child, path = (index + number) :: below ∧ nodes[number]? = some child ∧
        (below, inner) ∈ child.places := by
  induction nodes generalizing index with
  | nil => simp [placesFrom]
  | cons node rest ih =>
      rw [placesFrom, List.mem_append, ih]
      constructor
      · rintro (h | ⟨number, below, child, rfl, hc, hm⟩)
        · obtain ⟨⟨below, _⟩, hm, hp⟩ := List.mem_map.mp h
          obtain ⟨rfl, rfl⟩ := Prod.mk.inj hp
          exact ⟨0, below, node, rfl, rfl, hm⟩
        · refine ⟨number + 1, below, child, ?_, hc, hm⟩
          rw [Nat.add_right_comm, Nat.add_assoc]
      · rintro ⟨number, below, child, rfl, hc, hm⟩
        cases number with
        | zero =>
            cases hc
            exact .inl (List.mem_map.mpr ⟨_, hm, rfl⟩)
        | succ number =>
            refine .inr ⟨number, below, child, ?_, hc, hm⟩
            rw [Nat.add_right_comm, Nat.add_assoc]

-- The induction is on the path, which goes down one child at a time.
theorem mem_places {path : List Nat} {inner root : Node} :
    (path, inner) ∈ root.places ↔ root.at? path = some inner := by
  induction path generalizing root with
  | nil =>
      rw [places_eq, List.mem_cons, mem_placesFrom]
      simp [at?, eq_comm]
  | cons index path ih =>
      rw [places_eq, List.mem_cons, mem_placesFrom, at?, Option.bind_eq_some_iff]
      simp [ih]

mutual

theorem pairwise_places : (node : Node) → (node.places.map Prod.fst).Pairwise (· < ·)
  | ⟨kind, named, role, text, row, offset, children⟩ => by
      rw [places, List.map_cons, List.pairwise_cons]
      refine ⟨?_, pairwise_placesFrom 0 children⟩
      intro path hp
      obtain ⟨place, hm, rfl⟩ := List.mem_map.mp hp
      obtain ⟨number, below, child, hpath, -⟩ := mem_placesFrom.mp hm
      rw [hpath]
      exact List.nil_lt_cons _ _

theorem pairwise_placesFrom : (index : Nat) → (nodes : List Node) →
    ((placesFrom index nodes).map Prod.fst).Pairwise (· < ·)
  | _, [] => .nil
  | index, node :: rest => by
      -- All paths through the first child begin with its number, and all others with a greater one.
      have hbelow : ∀ {path}, path ∈ (placesFrom (index + 1) rest).map Prod.fst →
          ∃ number below, path = number :: below ∧ index < number := by
        intro path hp
        obtain ⟨place, hm, rfl⟩ := List.mem_map.mp hp
        obtain ⟨number, below, child, hpath, -⟩ := mem_placesFrom.mp hm
        exact ⟨index + 1 + number, below, hpath, by omega⟩
      rw [placesFrom, List.map_append, List.pairwise_append]
      refine ⟨?_, pairwise_placesFrom (index + 1) rest, ?_⟩
      · rw [List.map_map, List.pairwise_map]
        refine (List.pairwise_map.mp (pairwise_places node)).imp fun hlt => ?_
        exact List.cons_lt_cons_iff.mpr (.inr ⟨rfl, hlt⟩)
      · intro path hp later hl
        obtain ⟨place, hm, rfl⟩ := List.mem_map.mp hp
        obtain ⟨inner, -, rfl⟩ := List.mem_map.mp hm
        obtain ⟨number, below, rfl, hlt⟩ := hbelow hl
        exact List.cons_lt_cons_iff.mpr (.inl hlt)

end

-- The nodes are those of the tree, each place once, in the lexicographic order of the paths: a node
-- before those below it, and what is below a child before what is below the next one. Nodes at
-- different places may be equal, so it is the paths that tell them apart.
def InPathOrder (root : Node) (nodes : List Node) : Prop :=
  ∃ places : List (List Nat × Node), places.map Prod.snd = nodes ∧
    (places.map Prod.fst).Pairwise (· < ·) ∧
    ∀ path node, (path, node) ∈ places ↔ root.at? path = some node

theorem inPathOrder_preorder (root : Node) : InPathOrder root root.preorder :=
  ⟨root.places, map_snd_places root, pairwise_places root, fun _ _ => mem_places⟩

end Places

section Visitors

variable {m : Type → Type} (handlers : OrderedMap String (Node → m Unit))

def calls (nodes : List Node) : List ((Node → m Unit) × Node) :=
  nodes.filterMap fun node => (handlers.get? node.kind).map fun handler => (handler, node)

theorem calls_cons (node : Node) (rest : List Node) :
    calls handlers (node :: rest) =
      ((handlers.get? node.kind).map fun handler => (handler, node)).toList ++
        calls handlers rest := by
  rw [calls, List.filterMap_cons]
  cases handlers.get? node.kind <;> rfl

private theorem map_snd_calls (nodes : List Node) :
    (calls handlers nodes).map Prod.snd = nodes.filter fun node => node.kind ∈ handlers.keys := by
  induction nodes with
  | nil => rfl
  | cons node rest ih =>
      rw [calls_cons, List.map_append, ih, List.filter_cons]
      cases h : handlers.get? node.kind with
      | none =>
          have hkey : node.kind ∉ handlers.keys := OrderedMap.get?_eq_none_iff.mp h
          simp [hkey]
      | some handler =>
          have hkey : node.kind ∈ handlers.keys := by
            by_contra hn
            rw [OrderedMap.get?_eq_none_iff.mpr hn] at h
            cases h
          simp [hkey]

variable {handlers} in
private theorem get?_of_mem_calls {nodes : List Node} {call : (Node → m Unit) × Node}
    (h : call ∈ calls handlers nodes) : handlers.get? call.2.kind = some call.1 := by
  obtain ⟨node, -, hcall⟩ := List.mem_filterMap.mp h
  obtain ⟨handler, hget, rfl⟩ := Option.map_eq_some_iff.mp hcall
  exact hget

-- A node without a handler adds nothing to a run.
theorem forM_dispatcher [Monad m] [LawfulMonad m] (nodes : List Node) :
    nodes.forM (dispatcher handlers) = (calls handlers nodes).forM fun call => call.1 call.2 := by
  induction nodes with
  | nil => rfl
  | cons node rest ih =>
      simp only [List.forM_eq_forM, List.forM_cons] at ih ⊢
      rw [calls_cons, ih, dispatcher]
      cases handlers.get? node.kind with
      | none => simp
      | some handler => simp

theorem visit_dispatcher [Monad m] [LawfulMonad m] (root : Node) :
    root.visit (dispatcher handlers) =
      (calls handlers root.preorder).forM fun call => call.1 call.2 := by
  rw [visit, walk_eq_preorder, forM_dispatcher]

end Visitors

section OfKinds

theorem run_forM_collect (nodes : List Node) (found : Array Node) :
    ((nodes.forM collect).run found).2 = found ++ nodes := by
  induction nodes generalizing found with
  | nil => rfl
  | cons node rest ih =>
      have hstep : (((node :: rest).forM collect).run found).2 =
          ((rest.forM collect).run (found.push node)).2 := rfl
      rw [hstep, ih]
      simp

-- With one handler for all kinds, the calls are known by their nodes.
private theorem calls_const {m : Type → Type} (kinds : List String) (handler : Node → m Unit)
    (nodes : List Node) :
    calls (.ofList (kinds.map fun kind => (kind, handler))) nodes =
      (nodes.filter fun node => node.kind ∈ kinds).map fun node => (handler, node) := by
  induction nodes with
  | nil => rfl
  | cons node rest ih =>
      rw [calls_cons, ih, OrderedMap.get?_ofList_const, List.filter_cons]
      by_cases h : node.kind ∈ kinds
      · simp [h]
      · simp [h]

theorem ofKinds_eq_filter (kinds : List String) (root : Node) :
    root.ofKinds kinds = root.preorder.filter fun node => node.kind ∈ kinds := by
  have hrun : ∀ nodes : List Node,
      (nodes.map fun node => (collect, node)).forM (fun call => call.1 call.2) =
        nodes.forM collect := by
    intro nodes
    simp
  rw [ofKinds, visit_dispatcher, calls_const, hrun, run_forM_collect]
  simp

end OfKinds

-- From any stack the trees on it are visited in pre-order, from the top down, one node a turn. In a
-- tree every place is visited once, in the order of the paths from the root.
theorem walk_goes_in_preorder {m : Type → Type} [Monad m] [LawfulMonad m] (root : Node)
    (stack : Array Node) (handlers : OrderedMap String (Node → m Unit)) :
    root.walk = root.preorder ∧ InPathOrder root root.walk ∧
      (∀ count, walkFirst count [root] = root.preorder.take count) ∧
      drain stack = stack.toList.reverse.flatMap preorder ∧
      (∀ turns, drainFirst turns stack = (drain stack).take turns ∧
        (stackAfter turns stack = #[] ↔ (drain stack).length ≤ turns)) ∧
      ∃ calls : List ((Node → m Unit) × Node),
        root.visit (dispatcher handlers) = calls.forM (fun call => call.1 call.2) ∧
          calls.map Prod.snd = root.preorder.filter (fun node => node.kind ∈ handlers.keys) ∧
          ∀ call ∈ calls, handlers.get? call.2.kind = some call.1 := by
  refine ⟨walk_eq_preorder root, ?_, ?_, ?_, ?_, ?_⟩
  · rw [walk_eq_preorder]
    exact inPathOrder_preorder root
  · intro count
    rw [walkFirst, drainFirst_eq_take, upcoming_stacked_empty, preorderAll_eq_flatMap,
      List.flatMap_singleton]
  · rw [drain_eq_upcoming, upcoming, preorderAll_eq_flatMap]
  · intro turns
    refine ⟨?_, stackAfter_eq_empty_iff turns stack⟩
    rw [drainFirst_eq_take, drain_eq_upcoming]
  · exact ⟨calls handlers root.preorder, visit_dispatcher handlers root,
      map_snd_calls handlers root.preorder, fun _ => get?_of_mem_calls⟩

section Sample

def sampleCall : Node :=
  { kind := "call_expression"
    children := [{ kind := "identifier" },
      { kind := "arguments", children := [{ kind := "(", named := false }] }] }

-- Two calls that are alike, with a bare token between them.
def sampleProgram : Node :=
  { kind := "program", children := [sampleCall, { kind := ";", named := false }, sampleCall] }

def note (mark : String) (_ : Node) : StateM (List String) Unit := modify (mark :: ·)

def sampleHandlers : OrderedMap String (Node → StateM (List String) Unit) :=
  .ofList [("(", note "opened"), ("string", note "text"), ("call_expression", note "called")]

theorem walk_goes_in_preorder_sample :
    LawfulMonad (StateM (List String)) ∧
      sampleProgram.walk.map kind =
        ["program", "call_expression", "identifier", "arguments", "(", ";", "call_expression",
          "identifier", "arguments", "("] ∧
      (drain #[sampleProgram, sampleCall]).map kind =
        sampleCall.preorder.map kind ++ sampleProgram.preorder.map kind ∧
      stackAfter 13 #[sampleProgram, sampleCall] ≠ #[] ∧
      stackAfter 14 #[sampleProgram, sampleCall] = #[] ∧
      ∃ calls : List ((Node → StateM (List String) Unit) × Node),
        sampleProgram.visit (dispatcher sampleHandlers) = calls.forM (fun call => call.1 call.2) ∧
          calls.map (fun call => call.2.kind) =
            ["call_expression", "(", "call_expression", "("] := by
  obtain ⟨hwalk, -, -, hdrain, hturns, calls, hvisit, hcalls, -⟩ :=
    walk_goes_in_preorder sampleProgram #[sampleProgram, sampleCall] sampleHandlers
  have hlength : (drain #[sampleProgram, sampleCall]).length = 14 := by
    rw [hdrain]
    rfl
  refine ⟨inferInstance, ?_, ?_, ?_, ?_, calls, hvisit, ?_⟩
  · rw [hwalk]
    rfl
  · rw [hdrain]
    rfl
  · intro hempty
    have hle := (hturns 13).2.mp hempty
    omega
  · exact (hturns 14).2.mpr (Nat.le_of_eq hlength)
  · have hkinds := congrArg (List.map kind) hcalls
    rw [List.map_map] at hkinds
    exact hkinds.trans (by decide +kernel)

end Sample

end ContentForms.Syntax.Node
