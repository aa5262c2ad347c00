import ContentForms.Metrics
import ContentForms.Proofs.OrderedMap
import Mathlib.Algebra.BigOperators.Group.List.Lemmas
import Mathlib.Algebra.GroupWithZero.Nat
import Mathlib.Data.List.Count

namespace ContentForms

-- Telling the uses by distinct names keeps their order.
private theorem eraseDups_map [DecidableEq α] [DecidableEq β] {name : α → β}
    (hn : Function.Injective name) (uses : List α) :
    (uses.map name).eraseDups = uses.eraseDups.map name := by
  induction uses using List.reverseRecOn with
  | nil => rfl
  | append_singleton uses use ih =>
      have hmem : name use ∈ uses.map name ↔ use ∈ uses := List.mem_map_of_injective hn
      rw [List.map_append, List.map_singleton, eraseDups_concat, eraseDups_concat, ih]
      by_cases h : use ∈ uses
      · rw [if_pos h, if_pos (hmem.mpr h)]
      · rw [if_neg h, if_neg (mt hmem.mp h), List.map_append, List.map_singleton]

namespace Tally

variable [DecidableEq α]

structure Counts (tally : Tally α) (uses : List α) : Prop where
  keys_eq : tally.keys = uses.eraseDups
  count_eq : ∀ label, count tally label = uses.count label

theorem counts_empty : Counts (.empty : Tally α) [] := ⟨rfl, fun _ => rfl⟩

theorem Counts.increment {tally : Tally α} {uses : List α} (h : Counts tally uses) (use : α) :
    Counts (tally.increment use) (uses ++ [use]) := by
  constructor
  · rw [keys_increment, h.keys_eq, eraseDups_concat]
    simp only [List.mem_eraseDups]
  · intro label
    rw [count_increment, h.count_eq, h.count_eq, List.count_append, List.count_singleton]
    by_cases hl : label = use
    · simp [hl]
    · simp [hl, Ne.symm hl]

theorem Counts.foldl {tally : Tally α} {uses : List α} (h : Counts tally uses) (more : List α) :
    Counts (more.foldl Tally.increment tally) (uses ++ more) := by
  induction more generalizing tally uses with
  | nil => simpa using h
  | cons use rest ih => simpa using ih (h.increment use)

theorem count_eq_of_mem {tally : Tally α} {entry : α × Nat} (h : entry ∈ tally.entries) :
    count tally entry.1 = entry.2 := by
  rw [count, OrderedMap.get?, lookupEntry_of_mem tally.nodup h]
  rfl

private theorem nodup_eraseDups (uses : List α) : uses.eraseDups.Nodup := by
  induction uses using List.reverseRecOn with
  | nil => exact List.nodup_nil
  | append_singleton uses use ih =>
      rw [eraseDups_concat]
      split
      · exact ih
      · rename_i hn
        rw [List.nodup_append]
        refine ⟨ih, List.nodup_singleton use, fun a ha b hb hab => hn ?_⟩
        rw [List.mem_singleton.mp hb] at hab
        exact hab ▸ List.mem_eraseDups.mp ha

-- What is shown of a tally: each text that was used has one child, in the order of first use, with
-- the number of its uses.
structure Shows (tally : Tally α) (text : α → String) (uses : List String) : Prop where
  entries_eq : tally.entries.map (fun entry => (text entry.1, entry.2)) =
    uses.eraseDups.map fun use => (use, uses.count use)
  nodup : (tally.entries.map fun entry => text entry.1).Nodup

-- Texts that differ for different labels keep the order of first use and the counts.
theorem Counts.shows {tally : Tally α} {uses : List α} (h : Counts tally uses)
    {text : α → String} (ht : Function.Injective text) : Shows tally text (uses.map text) := by
  constructor
  · have hentries : ∀ entry ∈ tally.entries,
        (text entry.1, entry.2) = (text entry.1, uses.count entry.1) := by
      intro entry hm
      rw [← h.count_eq, count_eq_of_mem hm]
    calc tally.entries.map (fun entry => (text entry.1, entry.2))
        = tally.entries.map (fun entry => (text entry.1, uses.count entry.1)) :=
          List.map_congr_left hentries
      _ = tally.keys.map (fun label => (text label, uses.count label)) := by
          rw [OrderedMap.keys, List.map_map]
          rfl
      _ = (uses.map text).eraseDups.map fun use => (use, (uses.map text).count use) := by
          rw [h.keys_eq, eraseDups_map ht, List.map_map]
          refine List.map_congr_left fun label _ => ?_
          simp [List.count_map_of_injective uses text ht]
  · have hkeys : tally.entries.map (fun entry => text entry.1) = tally.keys.map text := by
      rw [OrderedMap.keys, List.map_map]
      rfl
    rw [hkeys]
    exact tally.nodup.map ht

-- All counts together are the number of uses.
theorem Counts.sum_values {tally : Tally α} {uses : List α} (h : Counts tally uses) :
    tally.values.sum = uses.length := by
  have hvalues : tally.values = uses.eraseDups.map fun label => uses.count label := by
    rw [← h.keys_eq, OrderedMap.values, OrderedMap.keys, List.map_map]
    refine List.map_congr_left fun entry hm => ?_
    rw [Function.comp_apply, ← h.count_eq, count_eq_of_mem hm]
  have hperm : uses.eraseDups.Perm uses.dedup := by
    rw [List.perm_ext_iff_of_nodup (nodup_eraseDups uses) (List.nodup_dedup uses)]
    intro use
    rw [List.mem_eraseDups, List.mem_dedup]
  rw [hvalues, (hperm.map _).sum_eq]
  exact List.sum_map_count_dedup_eq_length uses

theorem Counts.le {tally later : Tally α} {uses more : List α} (h : Counts tally uses)
    (hl : Counts later (uses ++ more)) (label : α) : count tally label ≤ count later label := by
  rw [h.count_eq, hl.count_eq, List.count_append]
  exact Nat.le_add_right _ _

end Tally

theorem FieldType.name_injective : Function.Injective FieldType.name := by
  intro a b h
  cases a <;> cases b <;> simp_all [name]

theorem Outcome.name_injective : Function.Injective Outcome.name := by
  intro a b h
  cases a <;> cases b <;> simp_all [name]

theorem FailureReason.name_injective : Function.Injective FailureReason.name :=
  fun _ _ _ => rfl

def Config.fieldsOfType (config : Config) (type : FieldType) : Nat :=
  (config.collections.values.map fun collection =>
    collection.fields.values.countP fun field => field.type = type).sum

namespace Metrics

theorem count_fieldTypes (config : Config) (type : FieldType) :
    (fieldTypes config).count type = config.fieldsOfType type := by
  rw [fieldTypes, List.count_flatMap, Config.fieldsOfType]
  congr 1
  refine List.map_congr_left fun collection _ => ?_
  rw [Function.comp_apply, List.count_eq_countP, List.countP_map]
  rfl

theorem length_fieldTypes (config : Config) : (fieldTypes config).length = config.fieldCount := by
  rw [fieldTypes, List.length_flatMap, Config.fieldCount]
  induction config.collections.values with
  | nil => rfl
  | cons collection rest ih =>
      simp only [List.map_cons, List.sum_cons, List.foldr_cons, ih]
      simp [Collection.size, OrderedMap.size, OrderedMap.values]

end Metrics

end ContentForms
