import ContentForms.Extraction
import ContentForms.Proofs.Builder
import ContentForms.Proofs.Syntax.PaddedShape
import ContentForms.Proofs.Syntax.Written

namespace ContentForms

open Syntax Node

namespace Builder

private theorem methods_eq {xs ys : List Link} (h : List.Forall₂ SameLink xs ys) :
    ys.map Link.method = xs.map Link.method := by
  induction h with
  | nil => rfl
  | cons hl _ ih => simp [hl.1, ih]

-- A leading marker asks for its argument, which is smaller; all else is in the methods' names.
theorem resolve_eq_of_alike {x y : Node} (h : Alike x y) : resolve y = resolve x := by
  have hchain := h.chain
  have hlast := getLast?_rel hchain
  generalize hx : x.chain.getLast? = a at hlast
  generalize hy : y.chain.getLast? = b at hlast
  cases hlast with
  | none =>
      rw [resolve_of_chain_nil (List.getLast?_eq_none_iff.mp hx),
        resolve_of_chain_nil (List.getLast?_eq_none_iff.mp hy)]
  | @some first found hl =>
      obtain ⟨hm, hcall⟩ := hl
      cases hmarker : isMarker first.method with
      | false =>
          rw [resolve_of_builder hx hmarker, resolve_of_builder hy (hm ▸ hmarker), hm,
            methods_eq hchain]
      | true =>
          rw [resolve_of_marker hx hmarker, resolve_of_marker hy (hm ▸ hmarker)]
          have hhead := head?_rel hcall.callArguments
          generalize ha : first.call.callArguments.head? = argument at hhead
          generalize found.call.callArguments.head? = argument' at hhead
          cases hhead with
          | none => rfl
          | some halike =>
              have hsize := sizeOf_lt_of_firstArgument hx ha
              simp only [Option.map_some, resolve_eq_of_alike halike]
termination_by sizeOf x

end Builder

namespace Declaration

theorem ofDeclarator?_rel {x y : Node} (h : PaddedAs "variable_declarator" x y) :
    Option.Rel (PaddedAs "object") (ofDeclarator? x) (ofDeclarator? y) := by
  obtain ⟨hk, hp⟩ := h
  have hname := hp.child?_kept "name" (by rw [hk]; decide)
  have hvalue := hp.child?_alike "value"
  unfold ofDeclarator?
  generalize x.child? "name" = a at hname ⊢
  generalize y.child? "name" = b at hname ⊢
  cases hname with
  | none => exact .none
  | @some a b hab =>
      obtain ⟨⟨hkind, -, -, -⟩, ht⟩ := hab
      dsimp only
      rw [hkind, ht (by rw [hk]; decide)]
      split
      · exact bind_rel hvalue fun _ _ hvw => hvw.asKind? "object"
      · exact .none

theorem exportedObject?_rel {x y : Node} (h : Alike x y) :
    Option.Rel (PaddedAs "object") (exportedObject? x) (exportedObject? y) := by
  have hobject := h.asKind? "object"
  have hcall := h.asKind? "call_expression"
  unfold exportedObject? Node.asObject? Node.asCall?
  generalize x.asKind? "object" = a at hobject ⊢
  generalize y.asKind? "object" = b at hobject ⊢
  cases hobject with
  | some hab => exact .some hab
  | none => exact bind_rel hcall fun _ _ hcd => hcd.firstObjectArgument?

private theorem find?_rel {xs ys : List (String × Node)} (h : List.Forall₂ SamePair xs ys)
    (name : String) :
    Option.Rel SamePair (xs.find? fun pair => pair.1 = name)
      (ys.find? fun pair => pair.1 = name) := by
  induction h with
  | nil => exact .none
  | @cons p q _ _ hpq _ ih =>
      rw [List.find?_cons, List.find?_cons, hpq.1]
      split
      · exact .some hpq
      · exact ih

theorem ofExport?_rel {x y : Node} (h : PaddedAs "export_statement" x y) :
    Option.Rel (PaddedAs "object") (ofExport? x) (ofExport? y) := by
  unfold ofExport?
  refine bind_rel (h.2.child?_alike "value") fun _ _ hvalue => ?_
  refine bind_rel (exportedObject?_rel hvalue) fun _ _ hholder => ?_
  refine bind_rel (find?_rel hholder.namedPairs collectionsName) fun _ _ hentry => ?_
  exact hentry.2.asKind? "object"

private theorem quiet_of_leafComment {node : Node} (h : LeafComment node) : Quiet node := by
  rw [quiet_iff, h.kind, h.children]
  simp

-- A search for declaring nodes that finds the same, up to padding, at a node and its padded form.
structure Search (kind : String) (reader : Node → Option Node) : Prop where
  declaring : kind = "variable_declarator" ∨ kind = "export_statement"
  rel : ∀ x y, PaddedAs kind x y → Option.Rel (PaddedAs "object") (reader x) (reader y)

section Search

variable {kind : String} {reader : Node → Option Node} (search : Search kind reader)

include search

-- The search passes through a wrapper to what it encloses.
private theorem firstFound?_wrapper {wrapper inner : Node} (h : Encloses wrapper inner) :
    firstFound? kind reader wrapper.preorder = firstFound? kind reader inner.preorder := by
  obtain ⟨before, after, hc, -, hq⟩ := h.split
  rw [List.forall_mem_append] at hq
  have hw : wrapper.kind ≠ kind := by
    intro he
    have hm := h.kind
    rw [he] at hm
    rcases search.declaring with rfl | rfl <;> revert hm <;> decide
  rw [firstFound?_preorder, if_neg hw, hc, firstFound?_preorderAll_append,
    firstFound?_of_quiet kind reader hq.1 search.declaring, firstFound?_preorderAll_cons,
    firstFound?_of_quiet kind reader hq.2 search.declaring]
  simp

private theorem firstFound?_comment {comment : Node} (h : LeafComment comment) (nodes : List Node) :
    firstFound? kind reader (preorderAll (comment :: nodes)) =
      firstFound? kind reader (preorderAll nodes) := by
  have hq : ∀ node ∈ [comment], Quiet node := by simpa using quiet_of_leafComment h
  rw [← List.singleton_append, firstFound?_preorderAll_append,
    firstFound?_of_quiet kind reader hq search.declaring, Option.none_or]

mutual

theorem firstFound?_padded {x y : Node} : Padded x y →
    Option.Rel (PaddedAs "object") (firstFound? kind reader x.preorder)
      (firstFound? kind reader y.preorder)
  | .node hk hn ht hc => by
      rw [firstFound?_preorder, firstFound?_preorder, hk]
      refine or_rel ?_ (firstFound?_paddedAll hc)
      split
      · rename_i he
        exact search.rel x y ⟨he, .node hk hn ht hc⟩
      · exact .none

theorem firstFound?_paddedAll {parent : String} {xs ys : List Node} : PaddedAll parent xs ys →
    Option.Rel (PaddedAs "object") (firstFound? kind reader (preorderAll xs))
      (firstFound? kind reader (preorderAll ys))
  | .nil => .none
  | .comment hc rest => by
      rw [firstFound?_comment search hc]
      exact firstFound?_paddedAll rest
  | .child _ first rest => by
      rw [firstFound?_preorderAll_cons, firstFound?_preorderAll_cons]
      exact or_rel (firstFound?_covered first) (firstFound?_paddedAll rest)

theorem firstFound?_covered {parent : String} {x y : Node} : Covered parent x y →
    Option.Rel (PaddedAs "object") (firstFound? kind reader x.preorder)
      (firstFound? kind reader y.preorder)
  | .bare _ padded => firstFound?_padded padded
  | .wrapped _ _ inner encloses => by
      rw [firstFound?_wrapper search encloses]
      exact firstFound?_covered inner

end

end Search

theorem locate?_rel {x y : Node} (h : Padded x y) :
    Option.Rel (PaddedAs "object") (locate? x) (locate? y) := by
  rw [locate?_eq, locate?_eq]
  exact or_rel (firstFound?_padded ⟨.inl rfl, fun _ _ => ofDeclarator?_rel⟩ h)
    (firstFound?_padded ⟨.inr rfl, fun _ _ => ofExport?_rel⟩ h)

end Declaration

namespace Extraction

theorem schemaObject?_rel {x y : Node} (h : Alike x y) :
    Option.Rel (PaddedAs "object") (schemaObject? x) (schemaObject? y) := by
  have hlast := getLast?_rel h.chain
  have hcall := h.asKind? "call_expression"
  unfold schemaObject? Node.asCall?
  generalize x.chain.getLast? = a at hlast ⊢
  generalize y.chain.getLast? = b at hlast ⊢
  cases hlast with
  | some hl => exact hl.2.firstObjectArgument?
  | none => exact bind_rel hcall fun _ _ hcd => hcd.firstObjectArgument?

private theorem foldlM_addField_eq {xs ys : List (String × Node)} (h : List.Forall₂ SamePair xs ys)
    (table : FieldTable) : ys.foldlM addField table = xs.foldlM addField table := by
  induction h generalizing table with
  | nil => rfl
  | cons hp _ ih =>
      simp only [List.foldlM_cons, addField, hp.1, Builder.resolve_eq_of_alike hp.2, ih]

theorem fields_eq {x y : Node} (h : Alike x y) : fields y = fields x := by
  have ho := schemaObject?_rel h
  unfold fields
  generalize schemaObject? x = a at ho ⊢
  generalize schemaObject? y = b at ho ⊢
  cases ho with
  | none => rfl
  | some hab => exact congrArg Traced.ofExcept (foldlM_addField_eq hab.namedPairs .empty)

theorem read_eq {p q : String × Node} (h : SamePair p q) (options : Options) :
    options.read q = options.read p := by
  rw [Options.read, Options.read, h.1, h.2.stringValue?_eq, fields_eq h.2]

theorem readAll_eq {xs ys : List (String × Node)} (h : List.Forall₂ SamePair xs ys)
    (options : Options) : options.readAll ys = options.readAll xs := by
  induction h generalizing options with
  | nil => rfl
  | cons hp _ ih => simp only [Options.readAll, read_eq hp, ih]

theorem collectionOfCall_eq {x y : Node} (h : PaddedAs "call_expression" x y) :
    collectionOfCall y = collectionOfCall x := by
  have ho := h.firstObjectArgument?
  unfold collectionOfCall
  generalize x.firstObjectArgument? = a at ho ⊢
  generalize y.firstObjectArgument? = b at ho ⊢
  cases ho with
  | none => rfl
  | some hab => simp only [Option.map_some, Option.getD_some, readAll_eq hab.namedPairs]

theorem collection?_eq {x y : Node} (h : Alike x y) : collection? y = collection? x := by
  have hc := h.asKind? "call_expression"
  unfold collection? Node.asCall?
  generalize x.asKind? "call_expression" = a at hc ⊢
  generalize y.asKind? "call_expression" = b at hc ⊢
  cases hc with
  | none => rfl
  | some hab => simp only [collectionOfCall_eq hab]

theorem addEntries_eq {xs ys : List (String × Node)} (h : List.Forall₂ SamePair xs ys)
    (collections : OrderedMap String Collection) :
    addEntries collections ys = addEntries collections xs := by
  induction h generalizing collections with
  | nil => rfl
  | cons hp _ ih => simp only [addEntries, addEntry, hp.1, collection?_eq hp.2, ih]

def readDeclaration (root : Node) : Traced SchemaError Config :=
  match Declaration.locate? root with
  | none => do
      Traced.report .noCollections
      return Config.empty
  | some object => do return ⟨← addEntries .empty object.namedPairs⟩

theorem config_eq (root : Node) :
    config root = reportFaults root >>= fun _ => readDeclaration root := by
  unfold config readDeclaration
  cases Declaration.locate? root <;> rfl

theorem readDeclaration_eq {x y : Node} (h : Padded x y) :
    readDeclaration y = readDeclaration x := by
  have hl := Declaration.locate?_rel h
  unfold readDeclaration
  generalize Declaration.locate? x = a at hl ⊢
  generalize Declaration.locate? y = b at hl ⊢
  cases hl with
  | none => rfl
  | some hab => simp only [addEntries_eq hab.namedPairs]

-- Faults are the only thing reported as a warning; they do not touch the result.
theorem config_parts (root : Node) :
    (config root).result = (readDeclaration root).result ∧
      (config root).events.filter (fun event => event.level = .debug) =
        (readDeclaration root).events.filter (fun event => event.level = .debug) := by
  rw [config_eq]
  change (Traced.bind _ _).result = _ ∧ (Traced.bind _ _).events.filter _ = _
  unfold reportFaults
  split <;> simp [Traced.bind, Traced.pure, Traced.report, Event.level]

theorem config_padded {x y : Node} (h : Padded x y) :
    (config y).result = (config x).result ∧
      (config y).events.filter (fun event => event.level = .debug) =
        (config x).events.filter (fun event => event.level = .debug) := by
  obtain ⟨hrx, hex⟩ := config_parts x
  obtain ⟨hry, hey⟩ := config_parts y
  rw [hrx, hry, hex, hey, readDeclaration_eq h]
  exact ⟨rfl, rfl⟩

-- Any number of comments and wrappers, put in one after the other.
theorem config_eq_of_insertions {x y : Node} (h : Relation.ReflTransGen Insertion x y) :
    (config y).result = (config x).result ∧
      (config y).events.filter (fun event => event.level = .debug) =
        (config x).events.filter (fun event => event.level = .debug) := by
  induction h with
  | refl => exact ⟨rfl, rfl⟩
  | tail _ hstep ih =>
      obtain ⟨hr, he⟩ := config_padded hstep.padded.1
      exact ⟨hr.trans ih.1, he.trans ih.2⟩

section Parenthesized

open Syntax.Written

def declaringSource (before : List Node) (value : Node) : Node :=
  { kind := "program"
    children := before ++ [{ kind := "variable_declarator"
                             children := [placed "name" (identifier "collections"), value] }] }

def declaredBlog : Node := object [("blog", call (identifier "defineCollection") [])]

-- `(declared // all)`
def parenthesizedBlog : Node :=
  { kind := "parenthesized_expression"
    role := some "value"
    children := [token "(", declaredBlog, leaf "comment" "// all", token ")"] }

theorem insertions_parenthesizedBlog :
    Relation.ReflTransGen Insertion (declaringSource [] (placed "value" declaredBlog))
      (declaringSource [leaf "comment" "// blog"] parenthesizedBlog) := by
  have hblog : declaredBlog.isOperand = true := rfl
  have hq : Declaration.Quiet declaredBlog := by
    simp [declaredBlog, quiet_object, quiet_call, identifier]
  have hwrap : Insertion (declaringSource [] (placed "value" declaredBlog))
      (declaringSource [] parenthesizedBlog) :=
    .inside { kind := "program" } _ _ [] [] (.wrapper { kind := "variable_declarator" }
      parenthesizedBlog (placed "value" declaredBlog) none [placed "name" (identifier "collections")]
      [] hblog (by decide) rfl
      ⟨by decide, rfl, [token "("], [leaf "comment" "// all", token ")"], rfl,
        by simp [token, Node.isOperand], by simp⟩) fun _ => rfl
  have hcomment : Insertion (declaringSource [] parenthesizedBlog)
      (declaringSource [leaf "comment" "// blog"] parenthesizedBlog) :=
    .comment { kind := "program" } (leaf "comment" "// blog") [] _ ⟨rfl, rfl, rfl⟩
  exact (Relation.ReflTransGen.single hwrap).tail hcomment

theorem config_parenthesizedBlog :
    Relation.ReflTransGen Insertion (declaringSource [] (placed "value" declaredBlog))
        (declaringSource [leaf "comment" "// blog"] parenthesizedBlog) ∧
      (config (declaringSource [leaf "comment" "// blog"] parenthesizedBlog)).result =
        .ok ⟨⟨[("blog", .empty .content)], by decide⟩⟩ := by
  have hbare : (config (declaringSource [] (placed "value" declaredBlog))).result =
      .ok ⟨⟨[("blog", .empty .content)], by decide⟩⟩ := by decide +kernel
  refine ⟨insertions_parenthesizedBlog, ?_⟩
  rw [(config_eq_of_insertions insertions_parenthesizedBlog).1, hbare]

end Parenthesized

end Extraction

end ContentForms
