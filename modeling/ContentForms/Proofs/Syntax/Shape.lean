import ContentForms.Syntax.Shape

namespace ContentForms.Syntax.Node

def UnwrapsTo (node : Node) (kind : String) (inner : Node) : Prop :=
  node.unwrap = some inner ∧ inner.kind = kind

variable {node inner : Node} {kind : String}

theorem asKind?_eq_some : node.asKind? kind = some inner ↔ node.UnwrapsTo kind inner := by
  rw [asKind?, Option.filter_eq_some_iff, decide_eq_true_iff, UnwrapsTo]

theorem asKind?_eq_none : node.asKind? kind = none ↔ ∀ inner, ¬ node.UnwrapsTo kind inner := by
  simp only [Option.eq_none_iff_forall_ne_some, ne_eq, asKind?_eq_some]

theorem UnwrapsTo.inner_eq {other : Node} (h : node.UnwrapsTo kind inner)
    (ho : node.UnwrapsTo kind other) : inner = other :=
  Option.some.inj (h.1.symm.trans ho.1)

theorem firstObjectArgument?_eq_some {call object : Node} :
    call.firstObjectArgument? = some object ↔ ∃ before argument after,
      call.callArguments = before ++ argument :: after ∧ argument.UnwrapsTo "object" object ∧
        ∀ other ∈ before, ∀ inner, ¬ other.UnwrapsTo "object" inner := by
  rw [firstObjectArgument?, List.findSome?_eq_some_iff]
  simp only [asObject?, asKind?_eq_some, asKind?_eq_none]

theorem asNamedPair?_eq_some {key : String} {value : Node} :
    node.asNamedPair? = some (key, value) ↔ node.named = true ∧ node.kind = "pair" ∧
      (∃ name, node.child? "key" = some name ∧ name.kind = "property_identifier" ∧
        name.textD = key) ∧ node.child? "value" = some value := by
  unfold asNamedPair?
  by_cases hp : node.named = true ∧ node.kind = "pair"
  · rw [if_pos (by simpa using hp)]
    cases node.child? "key" with
    | none => simp
    | some name =>
        cases node.child? "value" with
        | none => simp
        | some found => by_cases hk : name.kind = "property_identifier" <;> simp [hp, hk]
  · rw [if_neg (by simpa using hp)]
    simp only [reduceCtorEq, false_iff]
    exact fun h => hp ⟨h.1, h.2.1⟩

-- The text of a literal is its content between two quotes, whichever they are.
theorem stringValue?_eq_some {content : String} :
    node.stringValue? = some content ↔ ∃ literal opening closing,
      node.UnwrapsTo "string" literal ∧
        literal.textD.toList = opening :: (content.toList ++ [closing]) := by
  unfold stringValue?
  cases hs : node.asKind? "string" with
  | none =>
      have hn := asKind?_eq_none.mp hs
      simp only [reduceCtorEq, false_iff]
      rintro ⟨literal, _, _, hu, -⟩
      exact hn literal hu
  | some literal =>
      have hu := asKind?_eq_some.mp hs
      constructor
      · intro h
        dsimp only at h
        split at h
        · rename_i opening second rest ht
          have hc : content.toList = (second :: rest).dropLast := by
            rw [← Option.some.inj h, String.toList_ofList]
          refine ⟨literal, opening, (second :: rest).getLast (by simp), hu, ?_⟩
          rw [hc, List.dropLast_concat_getLast, ht]
        · cases h
      · rintro ⟨other, opening, closing, ho, ht⟩
        obtain rfl := hu.inner_eq ho
        obtain ⟨second, rest, hr⟩ : ∃ second rest, content.toList ++ [closing] = second :: rest :=
          List.exists_cons_of_ne_nil (by simp)
        simp only [ht, hr]
        rw [← hr, List.dropLast_concat, String.ofList_toList]

theorem memberParts?_eq_some {method : String} {receiver : Node} :
    node.memberParts? = some (method, receiver) ↔ ∃ member property,
      node.unwrap = some member ∧ member.kind = "member_expression" ∧
        member.child? "property" = some property ∧ property.textD = method ∧
        member.child? "object" = some receiver := by
  constructor
  · intro h
    unfold memberParts? at h
    split at h
    · cases h
    · rename_i member hm
      obtain ⟨hu, hk⟩ := asKind?_eq_some.mp hm
      split at h
      · rename_i property object hp ho
        cases h
        exact ⟨member, property, hu, hk, hp, rfl, ho⟩
      · cases h
  · rintro ⟨member, property, hu, hk, hp, rfl, ho⟩
    have hm : node.asKind? "member_expression" = some member := asKind?_eq_some.mpr ⟨hu, hk⟩
    simp only [memberParts?, hm, hp, ho]

end ContentForms.Syntax.Node
