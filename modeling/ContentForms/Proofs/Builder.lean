import ContentForms.Builder

namespace ContentForms.Builder

open Syntax

theorem resolve_of_chain_nil {node : Node} (h : node.chain = []) : resolve node = {} := by
  have hl : node.chain.getLast? = none := by simp [h]
  rw [resolve]
  split
  · rfl
  · simp_all

-- A marker that stands first takes the type from its argument.
theorem resolve_of_marker {node : Node} {first : Link} (hl : node.chain.getLast? = some first)
    (hm : isMarker first.method = true) :
    resolve node =
      { type := (first.call.callArguments.head?.map fun argument => (resolve argument).type).getD
          .unknown
        optional := true } := by
  rw [resolve]
  split
  · simp_all
  · rename_i found hf
    obtain rfl : first = found := Option.some.inj (hl.symm.trans hf)
    rw [if_pos hm]
    split <;> simp_all

theorem resolve_of_builder {node : Node} {first : Link} (hl : node.chain.getLast? = some first)
    (hm : isMarker first.method = false) :
    resolve node =
      { type := typeOf first.method
        optional := (node.chain.map Link.method).any isMarker } := by
  rw [resolve]
  split
  · simp_all
  · rename_i found hf
    obtain rfl : first = found := Option.some.inj (hl.symm.trans hf)
    simp [hm, List.any_map, Function.comp_def]

end ContentForms.Builder
