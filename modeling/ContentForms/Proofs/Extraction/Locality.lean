import ContentForms.Proofs.Extraction.Location
import ContentForms.Proofs.Syntax.Exchange

namespace ContentForms

namespace Declaration

open Syntax Node

-- The value that the first declaring variable of a tree holds is changed, inside its wrappers. What
-- is above the change may take another layout.
inductive FirstChanged (change : Node → Node → Prop) : Node → Node → Prop where
  | here {x y value changed : Node} : IsDeclaring x → PartExchange "value" x y value changed →
      Unwrapped change value changed → FirstChanged change x y
  | deeper {x y child changed : Node} {before after : List Node} : ¬ IsDeclaring x →
      (∀ node ∈ preorderAll before, ¬ IsDeclaring node) →
      Exchange x y before child changed after → FirstChanged change child changed →
      FirstChanged change x y

def IdentifiersAreLeaves (root : Node) : Prop :=
  ∀ node ∈ root.preorder, node.kind = "identifier" → node.children = []

section Search

variable {x object : Node}

theorem not_isDeclaring_of_kind (h : x.kind ≠ "variable_declarator") : ¬ IsDeclaring x :=
  fun ⟨_, hv⟩ => h hv.kind

theorem firstVariable?_of_holds (h : VariableHolds x object) :
    firstFound? "variable_declarator" ofDeclarator? x.preorder = some object := by
  rw [firstFound?_preorder, (reader_eq_some fun _ _ => variableHolds_iff).mpr h, Option.some_or]

theorem firstVariable?_below (h : ¬ IsDeclaring x) :
    firstFound? "variable_declarator" ofDeclarator? x.preorder =
      firstFound? "variable_declarator" ofDeclarator? (preorderAll x.children) := by
  rw [firstFound?_preorder, (reader_eq_none fun _ _ => variableHolds_iff).mpr, Option.none_or]
  exact fun object ho => h ⟨object, ho⟩

-- What comes after the child in which the search ends is never looked at.
theorem firstVariable?_of_split {before after : List Node} {child : Node} (hx : ¬ IsDeclaring x)
    (hc : x.children = before ++ child :: after)
    (hb : ∀ node ∈ preorderAll before, ¬ IsDeclaring node)
    (hf : firstFound? "variable_declarator" ofDeclarator? child.preorder = some object) :
    firstFound? "variable_declarator" ofDeclarator? x.preorder = some object := by
  rw [firstVariable?_below hx, hc, firstFound?_preorderAll_append, firstVariable?_eq_none.mpr hb,
    firstFound?_preorderAll_cons, hf, Option.none_or, Option.some_or]

end Search

-- A variable does not begin to hold an object by an exchange that leaves alone its name and the
-- kind that its value unwraps to.
theorem IsDeclaring.of_exchange {x y old new : Node} {before after : List Node}
    (h : Exchange x y before old new after) (hf : SameFace old new) (hk : old.kind ≠ "identifier")
    (hu : new.unwrap.map kind = old.unwrap.map kind) (hy : IsDeclaring y) : IsDeclaring x := by
  obtain ⟨object, hkind, ⟨name, hname, hidentifier, htext⟩, value, hvalue, hobject⟩ := hy
  have hname' : x.child? "name" = some name := by
    obtain heq | ⟨-, -, hnew⟩ := h.child?_cases hf.role "name"
    · exact heq ▸ hname
    · obtain rfl := Option.some.inj (hnew.symm.trans hname)
      exact absurd (hf.kind ▸ hidentifier) hk
  have hvalue' : ∃ value object, x.child? "value" = some value ∧
      value.UnwrapsTo "object" object := by
    obtain heq | ⟨-, hold, hnew⟩ := h.child?_cases hf.role "value"
    · exact ⟨value, object, heq ▸ hvalue, hobject⟩
    · obtain rfl := Option.some.inj (hnew.symm.trans hvalue)
      rw [hobject.1, Option.map_some, hobject.2] at hu
      obtain ⟨held, hheld, hkheld⟩ := Option.map_eq_some_iff.mp hu.symm
      exact ⟨old, held, hold, hheld, hkheld⟩
  obtain ⟨value', object', hv, hu'⟩ := hvalue'
  exact ⟨object', h.kind ▸ hkind, ⟨name, hname', hidentifier, htext⟩, value', hv, hu'⟩

namespace FirstChanged

variable {change : Node → Node → Prop} {x y : Node}

theorem face (h : FirstChanged change x y) : SameFace x y := by
  cases h with
  | here _ hp _ => exact hp.face
  | deeper _ _ he _ => exact he.toSameFace

theorem kind_ne_identifier (h : FirstChanged change x y) (hl : IdentifiersAreLeaves x) :
    x.kind ≠ "identifier" := by
  intro hk
  cases h with
  | here hd _ _ =>
      obtain ⟨_, hv⟩ := hd
      exact absurd (hk.symm.trans hv.kind) (by decide)
  | deeper _ _ he _ =>
      have hleaf := hl x (self_mem_preorder x) hk
      rw [he.children] at hleaf
      simp at hleaf

-- The variable is no wrapper, so unwrapping from above never passes it.
theorem unwrap_kind (h : FirstChanged change x y) : y.unwrap.map kind = x.unwrap.map kind := by
  induction h with
  | @here x y value changed hd hp _ =>
      obtain ⟨_, hv⟩ := hd
      have hk : x.kind ∉ wrapperKinds := by
        rw [hv.kind]
        decide
      rw [unwrap_of_notMem hk, unwrap_of_notMem (hp.face.kind ▸ hk), Option.map_some,
        Option.map_some, hp.face.kind]
  | deeper _ _ he hrest ih => exact he.unwrap_kind hrest.face ih

variable (hface : ∀ x y, change x y → SameFace x y)

include hface

-- Both searches end at the changed variable: going down to it, no variable on the way begins to
-- declare, and none before it does.
theorem found (h : FirstChanged change x y) (hl : IdentifiersAreLeaves x) :
    ∃ object changed,
      firstFound? "variable_declarator" ofDeclarator? x.preorder = some object ∧
      firstFound? "variable_declarator" ofDeclarator? y.preorder = some changed ∧
      change object changed := by
  induction h with
  | @here x y value value' hd hp hw =>
      obtain ⟨object, hkind, hname, found, hfound, hobject⟩ := hd
      obtain ⟨hold, hnew⟩ := hp.child?_part
      obtain ⟨inner, changed, hu, hu', hc⟩ := hw.unwrap_eq hface
      obtain rfl := Option.some.inj (hfound.symm.trans hold)
      obtain rfl := Option.some.inj (hobject.1.symm.trans hu)
      have hx : VariableHolds x object := ⟨hkind, hname, found, hfound, hobject⟩
      have hy : VariableHolds y changed := by
        refine ⟨hp.face.kind.trans hkind, ?_, value', hnew, hu', ?_⟩
        · rw [hp.child?_other (by decide)]
          exact hname
        · exact (hface object changed hc).kind.trans hobject.2
      exact ⟨object, changed, firstVariable?_of_holds hx, firstVariable?_of_holds hy, hc⟩
  | @deeper x y child child' before after hx hb he hrest ih =>
      have hm : child ∈ x.children := by simp [he.children]
      have hlchild : IdentifiersAreLeaves child := fun node hn =>
        hl node (mem_preorder_of_mem_children hm hn)
      obtain ⟨object, changed, hfx, hfy, hc⟩ := ih hlchild
      have hy : ¬ IsDeclaring y := fun hd =>
        hx (hd.of_exchange he hrest.face (hrest.kind_ne_identifier hlchild) hrest.unwrap_kind)
      exact ⟨object, changed, firstVariable?_of_split hx he.children hb hfx,
        firstVariable?_of_split hy he.exchanged hb hfy, hc⟩

theorem located (h : FirstChanged change x y) (hl : IdentifiersAreLeaves x) :
    ∃ object changed, locate? x = some object ∧ locate? y = some changed ∧
      change object changed := by
  obtain ⟨object, changed, hx, hy, hc⟩ := h.found hface hl
  refine ⟨object, changed, ?_, ?_, hc⟩
  · rw [locate?_eq, hx, Option.some_or]
  · rw [locate?_eq, hy, Option.some_or]

-- Whatever can be done to the located object can be done to it in its place.
theorem exists_of_found {object changed : Node} (hc : change object changed) (x : Node)
    (h : firstFound? "variable_declarator" ofDeclarator? x.preorder = some object) :
    ∃ y, FirstChanged change x y := by
  by_cases hd : IsDeclaring x
  · obtain ⟨held, hholds⟩ := id hd
    obtain rfl := Option.some.inj ((firstVariable?_of_holds hholds).symm.trans h)
    obtain ⟨value, hvalue, hobject⟩ := hholds.value
    obtain ⟨value', hw⟩ := Unwrapped.exists_of_unwrap hc value hobject.1
    have hrole : value.role = some "value" := by simpa using List.find?_some hvalue
    obtain ⟨y, hp⟩ := PartExchange.exists_of_child? hvalue ((hw.face hface).role.trans hrole)
    exact ⟨y, .here hd hp hw⟩
  · rw [firstVariable?_below hd] at h
    obtain ⟨before, child, after, hx, hb, hf⟩ := exists_split_of_firstFound? _ _ h
    have hsize : sizeOf child < sizeOf x := sizeOf_lt_of_mem_children (by simp [hx])
    obtain ⟨child', hrest⟩ := exists_of_found hc child hf
    exact ⟨{ x with children := before ++ child' :: after },
      .deeper hd (firstVariable?_eq_none.mp hb) ⟨⟨rfl, rfl, rfl⟩, hx, rfl⟩ hrest⟩
termination_by sizeOf x

end FirstChanged

end Declaration

namespace Extraction

open Syntax Node Declaration

def EntryExchange (key : String) (old new x y : Node) : Prop :=
  ∃ before pair changed after, Exchange x y before pair changed after ∧
    pair.asNamedPair? = some (key, old) ∧ PartExchange "value" pair changed old new

-- One pair of the object that the first declaring variable of a tree holds gets another value.
def ValueReplaced (key : String) (old new root edited : Node) : Prop :=
  FirstChanged (EntryExchange key old new) root edited

namespace EntryExchange

variable {key : String} {old new x y : Node}

theorem face (h : EntryExchange key old new x y) : SameFace x y := by
  obtain ⟨_, _, _, _, he, -, -⟩ := h
  exact he.toSameFace

theorem asNamedPair?_eq {pair changed : Node} (hp : pair.asNamedPair? = some (key, old))
    (he : PartExchange "value" pair changed old new) : changed.asNamedPair? = some (key, new) := by
  obtain ⟨hn, hk, hkey, -⟩ := asNamedPair?_eq_some.mp hp
  refine asNamedPair?_eq_some.mpr ⟨he.face.named.trans hn, he.face.kind.trans hk, ?_,
    he.child?_part.2⟩
  rw [he.child?_other (by decide)]
  exact hkey

theorem namedPairs_eq (h : EntryExchange key old new x y) :
    ∃ earlier later, x.namedPairs = earlier ++ (key, old) :: later ∧
      y.namedPairs = earlier ++ (key, new) :: later := by
  obtain ⟨before, pair, changed, after, he, hp, hv⟩ := h
  refine ⟨before.filterMap asNamedPair?, after.filterMap asNamedPair?, ?_, ?_⟩
  · rw [namedPairs, he.children, List.filterMap_append, List.filterMap_cons, hp]
  · rw [namedPairs, he.exchanged, List.filterMap_append, List.filterMap_cons, asNamedPair?_eq hp hv]

theorem exists_of_mem (hm : (key, old) ∈ x.namedPairs) (hr : new.role = some "value") :
    ∃ y, EntryExchange key old new x y := by
  obtain ⟨pair, hpair, hp⟩ := List.mem_filterMap.mp hm
  obtain ⟨before, after, hx⟩ := List.append_of_mem hpair
  obtain ⟨-, -, -, hvalue⟩ := asNamedPair?_eq_some.mp hp
  obtain ⟨changed, hv⟩ := PartExchange.exists_of_child? hvalue hr
  exact ⟨{ x with children := before ++ changed :: after }, before, pair, changed, after,
    ⟨⟨rfl, rfl, rfl⟩, hx, rfl⟩, hp, hv⟩

end EntryExchange

section Entries

variable {calls : List (String × Node)} {collections others : List (String × Collection)}

theorem Declares.filter (h : Declares calls collections) (key : String) :
    Declares (calls.filter fun call => call.1 ≠ key)
      (collections.filter fun entry => entry.1 ≠ key) := by
  induction h with
  | nil => exact .nil
  | @cons call entry _ _ hp _ ih =>
      by_cases hk : call.1 = key
      · rw [List.filter_cons_of_neg (by simpa using hk),
          List.filter_cons_of_neg (by simpa [← hp.1] using hk)]
        exact ih
      · rw [List.filter_cons_of_pos (by simpa using hk),
          List.filter_cons_of_pos (by simpa [← hp.1] using hk)]
        exact .cons hp ih

theorem Declares.unique (h : Declares calls collections) (ho : Declares calls others) :
    collections = others := by
  refine List.right_unique_forall₂' ?_ h ho
  rintro call ⟨name, collection⟩ ⟨name', collection'⟩ ⟨hn, hc⟩ ⟨hn', hc'⟩
  cases hn.symm.trans hn'
  cases hc.symm.trans hc'
  rfl

private theorem filter_declaredCalls (entries : List (String × Node)) (key : String) :
    (declaredCalls entries).filter (fun call => call.1 ≠ key) =
      declaredCalls (entries.filter fun entry => entry.1 ≠ key) := by
  induction entries with
  | nil => rfl
  | cons entry rest ih =>
      by_cases hk : entry.1 = key <;> cases hc : entry.2.asCall? <;>
        simp_all [declaredCalls]

-- Two declarations that differ at most under a key give collections that do.
private theorem erase_eq_of_filter_eq {entries edited : List (String × Node)} {key : String}
    (h : (edited.filter fun entry => entry.1 ≠ key) = entries.filter fun entry => entry.1 ≠ key)
    (hc : Declares (declaredCalls entries) collections)
    (ho : Declares (declaredCalls edited) others) :
    (OrderedMap.ofList others).erase key = (OrderedMap.ofList collections).erase key := by
  have hkept := hc.filter key
  have hedited := ho.filter key
  rw [filter_declaredCalls] at hkept hedited
  rw [h] at hedited
  rw [OrderedMap.erase_ofList, OrderedMap.erase_ofList, hedited.unique hkept]

end Entries

private theorem result_congr {x y : Node} (h : locate? x = locate? y) :
    (config x).result = (config y).result := by
  rw [(config_parts x).1, (config_parts y).1, readDeclaration, readDeclaration, h]

-- The collections are found at a variable in the child after the given ones.
structure FoundIn (root : Node) (before : List Node) (child : Node) (after : List Node) : Prop where
  children : root.children = before ++ child :: after
  earlier : ∀ node ∈ preorderAll before, ¬ IsDeclaring node
  found : ∃ node ∈ child.preorder, IsDeclaring node

section Program

variable {root child : Node} {before after : List Node}

theorem FoundIn.found_eq (h : FoundIn root before child after) (hk : root.kind = "program") :
    ∃ object, firstFound? "variable_declarator" ofDeclarator? child.preorder = some object ∧
      firstFound? "variable_declarator" ofDeclarator? root.preorder = some object := by
  obtain ⟨object, hf⟩ := exists_firstFound? (fun _ _ => variableHolds_iff) h.found
  have hroot : ¬ IsDeclaring root := not_isDeclaring_of_kind (by rw [hk]; decide)
  exact ⟨object, hf, firstVariable?_of_split hroot h.children h.earlier hf⟩

theorem FoundIn.locate?_eq_of_later (h : FoundIn root before child after)
    (hk : root.kind = "program") {edited : Node} {later : List Node}
    (he : edited.kind = "program") (hc : edited.children = before ++ child :: later) :
    locate? edited = locate? root := by
  obtain ⟨object, hchild, hroot⟩ := h.found_eq hk
  obtain ⟨object', hchild', hedited⟩ :=
    (⟨hc, h.earlier, h.found⟩ : FoundIn edited before child later).found_eq he
  obtain rfl : object' = object := Option.some.inj (hchild'.symm.trans hchild)
  rw [locate?_eq, locate?_eq, hroot, hedited, Option.some_or, Option.some_or]

theorem FoundIn.exists_valueReplaced (h : FoundIn root before child after)
    (hk : root.kind = "program") {object old new : Node} {key : String}
    (hlocate : locate? root = some object) (hm : (key, old) ∈ object.namedPairs)
    (hr : new.role = some "value") : ∃ edited, ValueReplaced key old new root edited := by
  obtain ⟨found, -, hf⟩ := h.found_eq hk
  obtain rfl : found = object := by
    rw [locate?_eq, hf, Option.some_or] at hlocate
    exact Option.some.inj hlocate
  obtain ⟨changed, hc⟩ := EntryExchange.exists_of_mem hm hr
  exact FirstChanged.exists_of_found (fun _ _ => EntryExchange.face) hc root hf

-- The object that is located is the edited one, before and after.
theorem ValueReplaced.located {edited old new : Node} {key : String}
    (h : ValueReplaced key old new root edited) (hl : IdentifiersAreLeaves root) :
    ∃ object changed earlier later, locate? root = some object ∧ locate? edited = some changed ∧
      object.namedPairs = earlier ++ (key, old) :: later ∧
      changed.namedPairs = earlier ++ (key, new) :: later := by
  obtain ⟨object, changed, hobject, hchanged, hentry⟩ :=
    FirstChanged.located (fun _ _ => EntryExchange.face) h hl
  obtain ⟨earlier, later, hpairs, hpairs'⟩ := hentry.namedPairs_eq
  exact ⟨object, changed, earlier, later, hobject, hchanged, hpairs, hpairs'⟩

-- The calls under other names are the same before and after, so their collections are.
theorem ValueReplaced.erase_eq {edited old new : Node} {key : String} {c c' : Config}
    (h : ValueReplaced key old new root edited) (hl : IdentifiersAreLeaves root)
    (hc : (config root).result = .ok c) (hc' : (config edited).result = .ok c') :
    c'.collections.erase key = c.collections.erase key := by
  obtain ⟨object, changed, earlier, later, hobject, hchanged, hpairs, hpairs'⟩ := h.located hl
  simp only [config_eq_ok, hobject] at hc
  simp only [config_eq_ok, hchanged] at hc'
  obtain ⟨collections, hd, hcollections⟩ := hc
  obtain ⟨others, hd', hothers⟩ := hc'
  rw [hcollections, hothers]
  refine erase_eq_of_filter_eq ?_ hd hd'
  rw [hpairs, hpairs']
  simp

end Program

-- The search comes to the variable that declares the collections before it comes to anything below
-- or after it, so nothing put there can be found in its place.
theorem edits_stay_local {root child : Node} {before after : List Node}
    (hk : root.kind = "program") (hl : IdentifiersAreLeaves root)
    (hf : FoundIn root before child after) :
    (∀ edited later, edited.kind = "program" → edited.children = before ++ child :: later →
        (config edited).result = (config root).result) ∧
      (∀ object key old new, locate? root = some object → (key, old) ∈ object.namedPairs →
        new.role = some "value" → ∃ edited, ValueReplaced key old new root edited) ∧
      ∀ key old new edited, ValueReplaced key old new root edited →
        (∃ object changed earlier later, locate? root = some object ∧
          locate? edited = some changed ∧ object.namedPairs = earlier ++ (key, old) :: later ∧
          changed.namedPairs = earlier ++ (key, new) :: later) ∧
        ∀ c c', (config root).result = .ok c → (config edited).result = .ok c' →
          c'.collections.erase key = c.collections.erase key := by
  refine ⟨?_, ?_, ?_⟩
  · intro edited later he hc
    exact result_congr (hf.locate?_eq_of_later hk he hc)
  · intro object key old new hobject hm hr
    exact hf.exists_valueReplaced hk hobject hm hr
  · intro key old new edited h
    exact ⟨h.located hl, fun c c' => h.erase_eq hl⟩

section Sample

open Syntax.Written Canonical

def emptyCall : Node := call (identifier "f") []

def rival : Node := branch "class" [variableStatement (object [("stolen", emptyCall)])]

def localObject (blog : Node) : Node := object [("blog", blog), ("notes", emptyCall)]

-- `() => const collections = { blog: ..., notes: f() };`
def localFunction (blog : Node) : Node :=
  branch "arrow_function" [variableStatement (localObject blog)]

def namedVariable (value : Node) : Node :=
  branch "variable_declarator" [placed "name" (identifier "collections"), token "=",
    placed "value" value]

-- The function is the value of a variable that is named `collections` too.
def nestedSource (blog : Node) (later : List Node) : Node :=
  branch "program" (importStatement :: variableStatement (localFunction blog) :: later)

section Nesting

variable {change : Node → Node → Prop} {x y child changed : Node} {before after : List Node}

theorem exchange_branch (kind : String) (before : List Node) (old new : Node)
    (after : List Node) :
    Exchange (branch kind (before ++ old :: after)) (branch kind (before ++ new :: after)) before
      old new after :=
  ⟨⟨rfl, rfl, rfl⟩, rfl, rfl⟩

theorem exchange_placed (role : String) (h : Exchange x y before child changed after) :
    Exchange (placed role x) (placed role y) before child changed after :=
  ⟨⟨h.kind, h.named, rfl⟩, h.children, h.exchanged⟩

theorem exchange_namedVariable (old new : Node) :
    Exchange (namedVariable old) (namedVariable new)
      [placed "name" (identifier "collections"), token "="] (placed "value" old)
      (placed "value" new) [] :=
  exchange_branch "variable_declarator" [placed "name" (identifier "collections"), token "="] _ _ []

theorem firstChanged_of_quiet (hk : x.kind ≠ "variable_declarator")
    (hb : ∀ node ∈ before, Quiet node) (he : Exchange x y before child changed after)
    (h : FirstChanged change child changed) : FirstChanged change x y := by
  refine .deeper (not_isDeclaring_of_kind hk) ?_ he h
  intro inner hi
  obtain ⟨node, hm, hi⟩ := mem_preorderAll.mp hi
  exact not_isDeclaring_of_kind (hb node hm inner hi).1

theorem firstChanged_variableStatement
    (h : FirstChanged change (namedVariable child) (namedVariable changed)) :
    FirstChanged change (variableStatement child) (variableStatement changed) :=
  firstChanged_of_quiet (by simp [variableStatement]) (by simp)
    (exchange_branch _ [placed "kind" (token "const")] _ _ [token ";"]) h

end Nesting

private theorem entryExchange_rival :
    EntryExchange "blog" (placed "value" emptyCall) (placed "value" rival)
      (placed "value" (localObject emptyCall)) (placed "value" (localObject rival)) := by
  have hobject := exchange_branch "object" [token "\x7b"] (pair ("blog", emptyCall))
    (pair ("blog", rival)) [token ",", pair ("notes", emptyCall), token "\x7d"]
  have hpair := exchange_branch "pair" [placed "key" (leaf "property_identifier" "blog"), token ":"]
    (placed "value" emptyCall) (placed "value" rival) []
  exact ⟨_, _, _, _, exchange_placed "value" hobject, asNamedPair?_pair ("blog", emptyCall),
    ⟨_, _, hpair, by simp⟩, rfl, rfl⟩

-- The way down goes through the outer variable, which is named alike and holds no object.
theorem valueReplaced_rival :
    ValueReplaced "blog" (placed "value" emptyCall) (placed "value" rival)
      (nestedSource emptyCall []) (nestedSource rival []) := by
  have hinner : ValueReplaced "blog" (placed "value" emptyCall) (placed "value" rival)
      (namedVariable (localObject emptyCall)) (namedVariable (localObject rival)) := by
    have hpart : PartExchange "value" (namedVariable (localObject emptyCall))
        (namedVariable (localObject rival)) (placed "value" (localObject emptyCall))
        (placed "value" (localObject rival)) :=
      ⟨⟨_, _, exchange_namedVariable _ _, by simp⟩, rfl, rfl⟩
    exact .here (by decide +kernel) hpart (.bare (by decide) entryExchange_rival)
  have hbody : ValueReplaced "blog" (placed "value" emptyCall) (placed "value" rival)
      (placed "value" (localFunction emptyCall)) (placed "value" (localFunction rival)) :=
    firstChanged_of_quiet (by simp [localFunction]) (by simp)
      (exchange_placed "value" (exchange_branch "arrow_function" [] _ _ []))
      (firstChanged_variableStatement hinner)
  have houter : ¬ IsDeclaring (namedVariable (localFunction emptyCall)) := by decide +kernel
  have hstatement := firstChanged_variableStatement
    (.deeper houter (by decide +kernel) (exchange_namedVariable _ _) hbody)
  exact firstChanged_of_quiet (by simp [nestedSource]) (by simp [importStatement])
    (exchange_branch "program" [importStatement] _ _ []) hstatement

theorem edits_stay_local_sample :
    FoundIn (nestedSource emptyCall []) [importStatement]
        (variableStatement (localFunction emptyCall)) [] ∧
      (config (nestedSource emptyCall [variableStatement rival, leaf "ERROR" "="])).result =
        (config (nestedSource emptyCall [])).result ∧
      ValueReplaced "blog" (placed "value" emptyCall) (placed "value" rival)
        (nestedSource emptyCall []) (nestedSource rival []) ∧
      ∃ c c', (config (nestedSource emptyCall [])).result = .ok c ∧
        (config (nestedSource rival [])).result = .ok c' ∧
        c'.collections.erase "blog" = c.collections.erase "blog" := by
  have hl : IdentifiersAreLeaves (nestedSource emptyCall []) := by
    unfold IdentifiersAreLeaves
    decide +kernel
  have hf : FoundIn (nestedSource emptyCall []) [importStatement]
      (variableStatement (localFunction emptyCall)) [] :=
    ⟨rfl, by decide +kernel, by decide +kernel⟩
  obtain ⟨hlater, -, hvalue⟩ := edits_stay_local rfl hl hf
  have hc : (config (nestedSource emptyCall [])).result =
      .ok ⟨⟨[("blog", .empty .content), ("notes", .empty .content)], by decide⟩⟩ := by
    decide +kernel
  have hc' : (config (nestedSource rival [])).result =
      .ok ⟨⟨[("notes", .empty .content)], by decide⟩⟩ := by decide +kernel
  refine ⟨hf, hlater _ _ rfl rfl, valueReplaced_rival, _, _, hc, hc', ?_⟩
  exact (hvalue _ _ _ _ valueReplaced_rival).2 _ _ hc hc'

end Sample

end Extraction

end ContentForms
