import ContentForms.Proofs.Extraction.Canonical
import ContentForms.Proofs.Syntax.Shape

namespace ContentForms.Declaration

open Syntax

structure VariableHolds (node object : Node) : Prop where
  kind : node.kind = "variable_declarator"
  name : ∃ name, node.child? "name" = some name ∧ name.kind = "identifier" ∧
    name.textD = "collections"
  value : ∃ value, node.child? "value" = some value ∧ value.UnwrapsTo "object" object

-- The object that a value is, or else the first object that it hands to a call.
inductive Exports (value : Node) : Node → Prop where
  | object {holder : Node} : value.UnwrapsTo "object" holder → Exports value holder
  | argument {call argument holder : Node} {before after : List Node} :
      value.UnwrapsTo "call_expression" call →
        call.callArguments = before ++ argument :: after →
        argument.UnwrapsTo "object" holder →
        (∀ other ∈ before, ∀ inner, ¬ other.UnwrapsTo "object" inner) → Exports value holder

-- An export of an object whose first pair named `collections` has the object as value.
structure ExportHolds (node object : Node) : Prop where
  kind : node.kind = "export_statement"
  entry : ∃ value holder before entry after, node.child? "value" = some value ∧
    Exports value holder ∧ holder.namedPairs = before ++ ("collections", entry) :: after ∧
    (∀ pair ∈ before, pair.1 ≠ "collections") ∧ entry.UnwrapsTo "object" object

-- `object` is what is held at the first of the nodes where anything is.
def HeldFirst (Holds : Node → Node → Prop) (nodes : List Node) (object : Node) : Prop :=
  ∃ before node after, nodes = before ++ node :: after ∧ Holds node object ∧
    ∀ earlier ∈ before, ∀ other, ¬ Holds earlier other

section Readers

variable {node value object holder : Node}

private theorem ofDeclarator?_eq_some :
    ofDeclarator? node = some object ↔
      (∃ name, node.child? "name" = some name ∧ name.kind = "identifier" ∧
        name.textD = "collections") ∧
      ∃ value, node.child? "value" = some value ∧ value.UnwrapsTo "object" object := by
  unfold ofDeclarator?
  cases node.child? "name" with
  | none => simp
  | some name =>
      by_cases h : name.kind = "identifier" ∧ name.textD = collectionsName
      · simp [h, collectionsName, Option.bind_eq_some_iff, Node.asObject?, Node.asKind?_eq_some]
      · have hn : ¬ (name.kind = "identifier" ∧ name.textD = "collections") := h
        simp [h, hn]

theorem variableHolds_iff :
    VariableHolds node object ↔
      node.kind = "variable_declarator" ∧ ofDeclarator? node = some object := by
  rw [ofDeclarator?_eq_some]
  exact ⟨fun ⟨hk, hn, hv⟩ => ⟨hk, hn, hv⟩, fun ⟨hk, hn, hv⟩ => ⟨hk, hn, hv⟩⟩

-- A value is not an object and a call at once, so the two ways to export do not compete.
private theorem exportedObject?_eq_some :
    exportedObject? value = some holder ↔ Exports value holder := by
  unfold exportedObject?
  cases ho : value.asObject? with
  | some found =>
      have hf : value.UnwrapsTo "object" found := Node.asKind?_eq_some.mp ho
      constructor
      · rintro ⟨⟩
        exact .object hf
      · intro h
        cases h with
        | object hu => rw [hf.inner_eq hu]
        | argument hcall =>
            obtain rfl := Option.some.inj (hf.1.symm.trans hcall.1)
            exact absurd (hf.2.symm.trans hcall.2) (by decide)
  | none =>
      have hn := Node.asKind?_eq_none.mp ho
      simp only [Option.bind_eq_some_iff, Node.asCall?, Node.asKind?_eq_some,
        Node.firstObjectArgument?_eq_some]
      constructor
      · rintro ⟨call, hcall, before, argument, after, ha, hu, hb⟩
        exact .argument hcall ha hu hb
      · intro h
        cases h with
        | object hu => exact absurd hu (hn holder)
        | argument hcall ha hu hb => exact ⟨_, hcall, _, _, _, ha, hu, hb⟩

private theorem ofExport?_eq_some :
    ofExport? node = some object ↔
      ∃ value holder before entry after, node.child? "value" = some value ∧
        Exports value holder ∧ holder.namedPairs = before ++ ("collections", entry) :: after ∧
        (∀ pair ∈ before, pair.1 ≠ "collections") ∧ entry.UnwrapsTo "object" object := by
  simp only [ofExport?, bind, Option.bind_eq_some_iff, exportedObject?_eq_some, Node.asObject?,
    Node.asKind?_eq_some, List.find?_eq_some_iff_append, Prod.exists, decide_eq_true_eq,
    Bool.not_eq_true', decide_eq_false_iff_not]
  constructor
  · rintro ⟨value, hv, holder, hh, name, entry, ⟨hn, before, after, hp, hb⟩, hu⟩
    refine ⟨value, holder, before, entry, after, hv, hh, ?_, hb, hu⟩
    rw [hp, hn]
    rfl
  · rintro ⟨value, holder, before, entry, after, hv, hh, hp, hb, hu⟩
    exact ⟨value, hv, holder, hh, "collections", entry, ⟨rfl, before, after, hp, hb⟩, hu⟩

theorem exportHolds_iff :
    ExportHolds node object ↔ node.kind = "export_statement" ∧ ofExport? node = some object := by
  rw [ofExport?_eq_some]
  exact ⟨fun ⟨hk, he⟩ => ⟨hk, he⟩, fun ⟨hk, he⟩ => ⟨hk, he⟩⟩

end Readers

section Search

variable {kind : String} {reader : Node → Option Node} {Holds : Node → Node → Prop}
  (hreads : ∀ node object, Holds node object ↔ node.kind = kind ∧ reader node = some object)

include hreads

theorem reader_eq_some {node object : Node} :
    (if node.kind = kind then reader node else none) = some object ↔ Holds node object := by
  rw [hreads, Option.ite_none_right_eq_some]

theorem reader_eq_none {node : Node} :
    (if node.kind = kind then reader node else none) = none ↔ ∀ object, ¬ Holds node object := by
  simp only [Option.eq_none_iff_forall_ne_some, ne_eq, reader_eq_some hreads]

theorem firstFound?_eq_some {nodes : List Node} {object : Node} :
    firstFound? kind reader nodes = some object ↔ HeldFirst Holds nodes object := by
  simp only [firstFound?, List.findSome?_eq_some_iff, reader_eq_some hreads,
    reader_eq_none hreads, HeldFirst]

theorem firstFound?_eq_none {nodes : List Node} :
    firstFound? kind reader nodes = none ↔ ∀ node ∈ nodes, ∀ object, ¬ Holds node object := by
  simp only [firstFound?, List.findSome?_eq_none_iff, reader_eq_none hreads]

theorem exists_firstFound? {nodes : List Node} (h : ∃ node ∈ nodes, ∃ object, Holds node object) :
    ∃ object, firstFound? kind reader nodes = some object := by
  obtain ⟨node, hm, object, hh⟩ := h
  cases hf : firstFound? kind reader nodes with
  | some found => exact ⟨found, rfl⟩
  | none => exact absurd hh ((firstFound?_eq_none hreads).mp hf node hm object)

end Search

def IsDeclaring (node : Node) : Prop := ∃ object, VariableHolds node object

instance : DecidablePred IsDeclaring := fun node =>
  decidable_of_iff (node.kind = "variable_declarator" ∧ (ofDeclarator? node).isSome) (by
    simp only [IsDeclaring, variableHolds_iff, Option.isSome_iff_exists, exists_and_left])

def declaringVariables (root : Node) : List Node :=
  root.preorder.filter fun node => IsDeclaring node

section Located

variable {root other object : Node}

private theorem mem_declaringVariables {node : Node} :
    node ∈ declaringVariables root ↔ node ∈ root.preorder ∧ IsDeclaring node := by
  rw [declaringVariables, List.mem_filter, decide_eq_true_iff]

theorem firstVariable?_eq_none {nodes : List Node} :
    firstFound? "variable_declarator" ofDeclarator? nodes = none ↔
      ∀ node ∈ nodes, ¬ IsDeclaring node := by
  rw [firstFound?_eq_none fun _ _ => variableHolds_iff]
  simp only [IsDeclaring, not_exists]

-- Nodes that hold nothing can be left out of the search.
theorem firstFound?_declaringVariables (root : Node) :
    firstFound? "variable_declarator" ofDeclarator? (declaringVariables root) =
      firstFound? "variable_declarator" ofDeclarator? root.preorder := by
  unfold declaringVariables firstFound?
  induction root.preorder with
  | nil => rfl
  | cons node rest ih =>
      by_cases h : IsDeclaring node
      · rw [List.filter_cons_of_pos (by simpa using h), List.findSome?_cons,
          List.findSome?_cons, ih]
      · have hn : (if node.kind = "variable_declarator" then ofDeclarator? node else none) = none :=
          (reader_eq_none fun _ _ => variableHolds_iff).mpr fun object ho => h ⟨object, ho⟩
        rw [List.filter_cons_of_neg (by simpa using h), List.findSome?_cons, hn, ih]

theorem locate?_eq_none_iff :
    locate? root = none ↔ ∀ node ∈ root.preorder, ∀ object,
      ¬ VariableHolds node object ∧ ¬ ExportHolds node object := by
  rw [locate?_eq, Option.or_eq_none_iff, firstFound?_eq_none fun _ _ => variableHolds_iff,
    firstFound?_eq_none fun _ _ => exportHolds_iff]
  simp only [forall_and]

theorem locate?_of_declaring (h : ∃ node ∈ root.preorder, IsDeclaring node) :
    ∃ object, locate? root = some object ∧ HeldFirst VariableHolds root.preorder object := by
  obtain ⟨object, hf⟩ := exists_firstFound? (fun _ _ => variableHolds_iff) h
  refine ⟨object, ?_, (firstFound?_eq_some fun _ _ => variableHolds_iff).mp hf⟩
  rw [locate?_eq, hf, Option.some_or]

-- Exports are looked at only in a tree without declaring variables.
theorem locate?_of_exporting (hn : ∀ node ∈ root.preorder, ¬ IsDeclaring node)
    (h : ∃ node ∈ root.preorder, ∃ object, ExportHolds node object) :
    ∃ object, locate? root = some object ∧ HeldFirst ExportHolds root.preorder object := by
  have hv := firstVariable?_eq_none.mpr hn
  obtain ⟨object, hf⟩ := exists_firstFound? (fun _ _ => exportHolds_iff) h
  refine ⟨object, ?_, (firstFound?_eq_some fun _ _ => exportHolds_iff).mp hf⟩
  rw [locate?_eq, hv, hf, Option.none_or]

theorem locate?_congr (hs : declaringVariables other = declaringVariables root)
    (hn : declaringVariables root ≠ []) : locate? other = locate? root := by
  obtain ⟨node, hm⟩ := List.exists_mem_of_ne_nil _ hn
  obtain ⟨object, hf⟩ := exists_firstFound? (fun _ _ => variableHolds_iff)
    ⟨node, mem_declaringVariables.mp hm⟩
  have ho : firstFound? "variable_declarator" ofDeclarator? other.preorder = some object := by
    rw [← firstFound?_declaringVariables, hs, firstFound?_declaringVariables, hf]
  rw [locate?_eq, locate?_eq, hf, ho, Option.some_or, Option.some_or]

end Located

-- The object of the first variable in pre-order that holds one, and that of the first such export
-- only where no variable does. Whatever else the tree contains is of no account.
theorem located_object_exact (root : Node) :
    (locate? root = none ↔ ∀ node ∈ root.preorder, ∀ object,
        ¬ VariableHolds node object ∧ ¬ ExportHolds node object) ∧
      ((∃ node ∈ root.preorder, IsDeclaring node) →
        ∃ object, locate? root = some object ∧ HeldFirst VariableHolds root.preorder object) ∧
      ((∀ node ∈ root.preorder, ¬ IsDeclaring node) →
        (∃ node ∈ root.preorder, ∃ object, ExportHolds node object) →
        ∃ object, locate? root = some object ∧ HeldFirst ExportHolds root.preorder object) ∧
      ∀ other, declaringVariables other = declaringVariables root →
        declaringVariables root ≠ [] → locate? other = locate? root :=
  ⟨locate?_eq_none_iff, locate?_of_declaring, locate?_of_exporting, fun _ => locate?_congr⟩

section Sample

open Syntax.Written Canonical
open Extraction (declaredBlog)

-- `const collections = 5; export default { collections: { blog: ... } };`
def exportingSource : Node :=
  branch "program" [variableStatement (leaf "number" "5"),
    defaultStatement (object [("collections", declaredBlog)])]

-- `export default { collections: { } }; const collections = 5; const collections = { blog: ... };`
def crowdedSource : Node :=
  branch "program" [defaultStatement (object [("collections", object [])]),
    variableStatement (leaf "number" "5"), variableStatement declaredBlog]

def bareSource : Node := branch "program" [variableStatement declaredBlog]

private theorem exportHolds_sample :
    ExportHolds (defaultStatement (object [("collections", declaredBlog)]))
      (placed "value" declaredBlog) :=
  exportHolds_iff.mpr ⟨rfl, ofExport?_defaultStatement rfl (exportedObject?_object _) rfl⟩

theorem located_object_samples :
    (∃ object, locate? crowdedSource = some object ∧
        HeldFirst VariableHolds crowdedSource.preorder object) ∧
      (∃ object, locate? exportingSource = some object ∧
        HeldFirst ExportHolds exportingSource.preorder object) ∧
      declaringVariables bareSource = declaringVariables crowdedSource ∧
      declaringVariables crowdedSource ≠ [] ∧ locate? bareSource = locate? crowdedSource := by
  have hs : declaringVariables bareSource = declaringVariables crowdedSource := rfl
  have hn : declaringVariables crowdedSource ≠ [] := List.cons_ne_nil _ _
  have hd : ∃ node ∈ crowdedSource.preorder, IsDeclaring node := by decide +kernel
  have hv : ∀ node ∈ exportingSource.preorder, ¬ IsDeclaring node := by decide +kernel
  have he : ∃ node ∈ exportingSource.preorder, ∃ object, ExportHolds node object := by
    refine ⟨_, ?_, _, exportHolds_sample⟩
    exact Node.mem_preorder_of_mem_children (by simp [exportingSource]) (Node.self_mem_preorder _)
  obtain ⟨-, hvariable, -, hsame⟩ := located_object_exact crowdedSource
  exact ⟨hvariable hd, (located_object_exact exportingSource).2.2.1 hv he, hs, hn, hsame _ hs hn⟩

end Sample

end ContentForms.Declaration
