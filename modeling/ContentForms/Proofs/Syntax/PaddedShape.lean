import ContentForms.Proofs.Syntax.Padding

namespace ContentForms.Syntax

open Node

section Along

-- Readings of lists and options that go along with each other go along too.
theorem bind_rel {R : α → β → Prop} {S : γ → δ → Prop} {f : α → Option γ} {g : β → Option δ}
    {a : Option α} {b : Option β} (hab : Option.Rel R a b)
    (hfg : ∀ a b, R a b → Option.Rel S (f a) (g b)) : Option.Rel S (a.bind f) (b.bind g) := by
  cases hab with
  | none => exact .none
  | some h => exact hfg _ _ h

theorem or_rel {R : α → β → Prop} {a c : Option α} {b d : Option β} (hab : Option.Rel R a b)
    (hcd : Option.Rel R c d) : Option.Rel R (a.or c) (b.or d) := by
  cases hab with
  | none => exact hcd
  | some h => exact .some h

theorem head?_rel {R : α → β → Prop} {xs : List α} {ys : List β} (h : List.Forall₂ R xs ys) :
    Option.Rel R xs.head? ys.head? := by
  cases h with
  | nil => exact .none
  | cons hab _ => exact .some hab

theorem getLast?_rel {R : α → β → Prop} {xs : List α} {ys : List β} (h : List.Forall₂ R xs ys) :
    Option.Rel R xs.getLast? ys.getLast? := by
  rw [List.getLast?_eq_head?_reverse, List.getLast?_eq_head?_reverse]
  exact head?_rel (List.forall₂_reverse_iff.mpr h)

-- The first find in two lists that go along with each other.
private theorem findSome?_rel {R : α → β → Prop} {S : γ → δ → Prop} {f : α → Option γ}
    {g : β → Option δ} (hfg : ∀ a b, R a b → Option.Rel S (f a) (g b)) {xs : List α} {ys : List β}
    (h : List.Forall₂ R xs ys) : Option.Rel S (xs.findSome? f) (ys.findSome? g) := by
  induction h with
  | nil => exact .none
  | @cons a b _ _ hab _ ih =>
      have hr := hfg a b hab
      rw [List.findSome?_cons, List.findSome?_cons]
      generalize f a = c at hr ⊢
      generalize g b = d at hr ⊢
      cases hr with
      | none => exact ih
      | some hs => exact .some hs

end Along

def PaddedAs (kind : String) (x y : Node) : Prop := x.kind = kind ∧ Padded x y

def SamePair (p q : String × Node) : Prop := q.1 = p.1 ∧ Alike p.2 q.2

def SameLink (p q : Link) : Prop :=
  q.method = p.method ∧ PaddedAs "call_expression" p.call q.call

theorem Alike.asKind? {x y : Node} (h : Alike x y) (kind : String) :
    Option.Rel (PaddedAs kind) (x.asKind? kind) (y.asKind? kind) := by
  unfold Node.asKind?
  unfold Alike at h
  generalize x.unwrap = a at h ⊢
  generalize y.unwrap = b at h ⊢
  cases h with
  | none => exact .none
  | @some a b hp =>
      obtain ⟨hk, -, -, -⟩ := id hp
      by_cases ha : a.kind = kind
      · simpa [Option.filter, ha, hk] using ⟨ha, hp⟩
      · simp [Option.filter, ha, hk]

-- A child that no wrapper can come around keeps its place, and its text if that is read.
theorem Covered.kept {parent : String} {x y : Node} (h : Covered parent x y)
    (hp : ¬ HoldsExpression parent x.role) :
    Padded x y ∧ (ReadByText parent x.role → y.text = x.text) := by
  cases h with
  | bare text padded => exact ⟨padded, text⟩
  | wrapped _ place _ _ => exact absurd place hp

theorem Padded.child?_alike {x y : Node} (h : Padded x y) (role : String) :
    Option.Rel Alike (x.child? role) (y.child? role) := by
  obtain ⟨-, -, -, hc⟩ := h
  have hf := hc.find?_role role
  unfold Node.child?
  generalize x.children.find? _ = a at hf ⊢
  generalize y.children.find? _ = b at hf ⊢
  cases hf with
  | none => exact .none
  | some hab => exact .some hab.2.alike

theorem Padded.child?_kept {x y : Node} (h : Padded x y) (role : String)
    (hp : ¬ HoldsExpression x.kind (some role)) :
    Option.Rel (fun a b => Padded a b ∧ (ReadByText x.kind (some role) → b.textD = a.textD))
      (x.child? role) (y.child? role) := by
  obtain ⟨-, -, -, hc⟩ := h
  have hf := hc.find?_role role
  unfold Node.child?
  generalize x.children.find? _ = a at hf ⊢
  generalize y.children.find? _ = b at hf ⊢
  cases hf with
  | none => exact .none
  | some hab =>
      obtain ⟨hr, hcover⟩ := hab
      obtain ⟨hpad, ht⟩ := hcover.kept (hr ▸ hp)
      exact .some ⟨hpad, fun hm => by rw [Node.textD, Node.textD, ht (hr ▸ hm)]⟩

theorem PaddedAs.callArguments {x y : Node} (h : PaddedAs "call_expression" x y) :
    List.Forall₂ Alike x.callArguments y.callArguments := by
  obtain ⟨hk, hp⟩ := h
  have hc := hp.child?_kept "arguments" (by rw [hk]; decide)
  unfold Node.callArguments
  generalize x.child? "arguments" = a at hc ⊢
  generalize y.child? "arguments" = b at hc ⊢
  cases hc with
  | none => exact .nil
  | @some a b hab =>
      obtain ⟨⟨hkind, -, -, hchildren⟩, -⟩ := hab
      by_cases ha : a.kind = "arguments"
      · simpa [ha, hkind] using hchildren.operands
      · simp [ha, hkind]

theorem PaddedAs.firstObjectArgument? {x y : Node} (h : PaddedAs "call_expression" x y) :
    Option.Rel (PaddedAs "object") x.firstObjectArgument? y.firstObjectArgument? :=
  findSome?_rel (fun _ _ hab => hab.asKind? "object") h.callArguments

-- The key of a pair is read by its text, so no wrapper may have come around it.
theorem Padded.asNamedPair? {x y : Node} (h : Padded x y) :
    Option.Rel SamePair x.asNamedPair? y.asNamedPair? := by
  obtain ⟨hkind, hnamed, -, -⟩ := id h
  unfold Node.asNamedPair?
  rw [hkind, hnamed]
  by_cases hp : x.named && x.kind == "pair"
  · have hk : x.kind = "pair" := by simp_all
    have hc := h.child?_kept "key" (by rw [hk]; decide)
    have hv := h.child?_alike "value"
    rw [if_pos hp, if_pos hp]
    generalize x.child? "key" = a at hc ⊢
    generalize y.child? "key" = b at hc ⊢
    generalize x.child? "value" = v at hv ⊢
    generalize y.child? "value" = w at hv ⊢
    cases hc with
    | none => exact .none
    | @some a b hab =>
        cases hv with
        | none => exact .none
        | some hvw =>
            obtain ⟨⟨hka, -, -, -⟩, ht⟩ := hab
            by_cases ha : a.kind = "property_identifier"
            · simp only [hka, ha, if_true]
              exact .some ⟨ht (by rw [hk]; decide), hvw⟩
            · simp only [hka, ha, if_false]
              exact .none
  · rw [if_neg hp, if_neg hp]
    exact .none

theorem LeafComment.asNamedPair? {node : Node} (h : LeafComment node) :
    node.asNamedPair? = none := by
  simp [Node.asNamedPair?, h.kind]

-- In an object nothing but comments is put between the pairs, and none of them gets wrapped.
theorem PaddedAll.namedPairs {xs ys : List Node} :
    PaddedAll "object" xs ys →
      List.Forall₂ SamePair (xs.filterMap Node.asNamedPair?) (ys.filterMap Node.asNamedPair?)
  | .nil => .nil
  | .comment hc rest => by simpa [hc.asNamedPair?] using rest.namedPairs
  | .child (x := x) (y := y) _ first rest => by
      have hp : ¬ HoldsExpression "object" x.role := by simp [HoldsExpression, wrapperKinds]
      have hpair := (first.kept hp).1.asNamedPair?
      rw [List.filterMap_cons, List.filterMap_cons]
      generalize x.asNamedPair? = p at hpair ⊢
      generalize y.asNamedPair? = q at hpair ⊢
      cases hpair with
      | none => exact rest.namedPairs
      | some hpq => exact .cons hpq rest.namedPairs

theorem PaddedAs.namedPairs {x y : Node} (h : PaddedAs "object" x y) :
    List.Forall₂ SamePair x.namedPairs y.namedPairs := by
  obtain ⟨hk, -, -, -, hc⟩ := h
  exact (hk ▸ hc).namedPairs

theorem Alike.stringValue?_eq {x y : Node} (h : Alike x y) :
    y.stringValue? = x.stringValue? := by
  have hk := h.asKind? "string"
  unfold Node.stringValue?
  generalize x.asKind? "string" = a at hk ⊢
  generalize y.asKind? "string" = b at hk ⊢
  cases hk with
  | none => rfl
  | some hab =>
      obtain ⟨hs, -, -, ht, -⟩ := hab
      simp only [Node.textD, ht hs]

theorem Alike.memberParts? {x y : Node} (h : Alike x y) :
    Option.Rel SamePair x.memberParts? y.memberParts? := by
  have hk := h.asKind? "member_expression"
  unfold Node.memberParts?
  generalize x.asKind? "member_expression" = a at hk ⊢
  generalize y.asKind? "member_expression" = b at hk ⊢
  cases hk with
  | none => exact .none
  | @some a b hab =>
      obtain ⟨hk, hp⟩ := hab
      have hproperty := hp.child?_kept "property" (by rw [hk]; decide)
      have hobject := hp.child?_alike "object"
      dsimp only
      generalize a.child? "property" = p at hproperty ⊢
      generalize b.child? "property" = q at hproperty ⊢
      generalize a.child? "object" = v at hobject ⊢
      generalize b.child? "object" = w at hobject ⊢
      cases hproperty with
      | none => exact .none
      | some hpq =>
          cases hobject with
          | none => exact .none
          | some hvw => exact .some ⟨hpq.2 (by rw [hk]; decide), hvw⟩

theorem Alike.link? {x y : Node} (h : Alike x y) :
    Option.Rel (fun p q => SameLink p.1 q.1 ∧ Alike p.2 q.2) x.link? y.link? := by
  have hk := h.asKind? "call_expression"
  unfold Node.link? Node.asCall?
  generalize x.asKind? "call_expression" = a at hk ⊢
  generalize y.asKind? "call_expression" = b at hk ⊢
  cases hk with
  | none => exact .none
  | @some a b hab =>
      have hm := bind_rel (hab.2.child?_alike "function") fun _ _ hfg => hfg.memberParts?
      dsimp only
      generalize (a.child? "function").bind Node.memberParts? = p at hm ⊢
      generalize (b.child? "function").bind Node.memberParts? = q at hm ⊢
      cases hm with
      | none => exact .none
      | some hpq => exact .some ⟨⟨hpq.1, hab⟩, hpq.2⟩

-- The chains go along link by link; the receivers get smaller.
theorem Alike.chain {x y : Node} (h : Alike x y) : List.Forall₂ SameLink x.chain y.chain := by
  have hl := h.link?
  cases hx : x.link? with
  | none =>
      cases hy : y.link? with
      | none =>
          rw [chain_of_link?_none hx, chain_of_link?_none hy]
          exact .nil
      | some _ => rw [hx, hy] at hl; cases hl
  | some outer =>
      cases hy : y.link? with
      | none => rw [hx, hy] at hl; cases hl
      | some found =>
          rw [hx, hy] at hl
          cases hl with
          | some hpq =>
              have hsize := sizeOf_lt_of_link? hx
              rw [chain_of_link? hx, chain_of_link? hy]
              exact .cons hpq.1 hpq.2.chain
termination_by sizeOf x

end ContentForms.Syntax
