import ContentForms.OrderedMap
import Mathlib.Data.List.Forall2
import Mathlib.Data.List.Induction

namespace ContentForms

private theorem putEntry_of_notMem [DecidableEq α] (key : α) (value : β) {entries : List (α × β)}
    (h : key ∉ entries.map Prod.fst) : putEntry key value entries = entries ++ [(key, value)] := by
  induction entries with
  | nil => rfl
  | cons entry rest ih =>
      simp only [List.map_cons, List.mem_cons, not_or] at h
      simp [putEntry, Ne.symm h.1, ih h.2]

theorem lookupEntry_of_mem [DecidableEq α] {key : α} {value : β} {entries : List (α × β)}
    (hn : (entries.map Prod.fst).Nodup) (hm : (key, value) ∈ entries) :
    lookupEntry key entries = some value := by
  induction entries with
  | nil => simp at hm
  | cons entry rest ih =>
      rw [List.map_cons, List.nodup_cons] at hn
      rcases List.mem_cons.mp hm with rfl | hm
      · simp [lookupEntry]
      · have hne : entry.1 ≠ key := by
          rintro rfl
          exact hn.1 (List.mem_map.mpr ⟨_, hm, rfl⟩)
        simp [lookupEntry, hne, ih hn.2 hm]

theorem lookupEntry_eq_lookup [DecidableEq α] (key : α) (entries : List (α × β)) :
    lookupEntry key entries = entries.lookup key := by
  induction entries with
  | nil => rfl
  | cons entry rest ih =>
      obtain ⟨name, value⟩ := entry
      by_cases h : key = name
      · simp [lookupEntry, h]
      · simp [lookupEntry, List.lookup_cons, beq_eq_false_iff_ne.mpr h, Ne.symm h, ih]

theorem lookupEntry_eq_none_iff [DecidableEq α] {key : α} {entries : List (α × β)} :
    lookupEntry key entries = none ↔ key ∉ entries.map Prod.fst := by
  induction entries with
  | nil => simp [lookupEntry]
  | cons entry rest ih =>
      by_cases h : entry.1 = key
      · simp [lookupEntry, h]
      · simp [lookupEntry, h, ih, Ne.symm h]

theorem mem_of_mem_putEntry [DecidableEq α] {key : α} {value : β} {entries : List (α × β)}
    {entry : α × β} (h : entry ∈ putEntry key value entries) :
    entry = (key, value) ∨ entry ∈ entries := by
  induction entries with
  | nil => exact .inl (List.mem_singleton.mp h)
  | cons first rest ih =>
      rw [putEntry] at h
      split at h
      · exact (List.mem_cons.mp h).imp_right (List.mem_cons_of_mem first)
      · rcases List.mem_cons.mp h with rfl | h
        · exact .inr List.mem_cons_self
        · exact (ih h).imp_right (List.mem_cons_of_mem first)

private theorem map_putEntry [DecidableEq α] (f : β → γ) (key : α) (value : β)
    (entries : List (α × β)) :
    (putEntry key value entries).map (fun entry => (entry.1, f entry.2)) =
      putEntry key (f value) (entries.map fun entry => (entry.1, f entry.2)) := by
  induction entries with
  | nil => rfl
  | cons entry rest ih => by_cases h : entry.1 = key <;> simp [putEntry, h, ih]

-- Putting under a key leaves no trace once that key is taken out.
private theorem filter_putEntry [DecidableEq α] (key other : α) (value : β)
    (entries : List (α × β)) :
    (putEntry key value entries).filter (fun entry => entry.1 ≠ other) =
      if key = other then entries.filter fun entry => entry.1 ≠ other
      else putEntry key value (entries.filter fun entry => entry.1 ≠ other) := by
  induction entries with
  | nil => by_cases h : key = other <;> simp [h]
  | cons entry rest ih =>
      by_cases hk : entry.1 = key
      · by_cases h : key = other <;> simp [putEntry, hk, h]
      · have hp : putEntry key value (entry :: rest) = entry :: putEntry key value rest := by
          simp [putEntry, hk]
        rw [hp, List.filter_cons, List.filter_cons, ih]
        by_cases ho : entry.1 = other
        · simp [ho]
        · by_cases h : key = other
          · simp [h, ho]
          · simp [h, ho, hk, putEntry]

theorem eraseDups_concat [DecidableEq α] (names : List α) (name : α) :
    (names ++ [name]).eraseDups =
      if name ∈ names then names.eraseDups else names.eraseDups ++ [name] := by
  rw [List.eraseDups_append]
  by_cases h : name ∈ names
  · simp [h, List.removeAll]
  · simp [h, List.removeAll, List.eraseDups_cons]

namespace OrderedMap

variable [DecidableEq α]

theorem map_insert (f : β → γ) (m : OrderedMap α β) (key : α) (value : β) :
    (m.insert key value).map f = (m.map f).insert key (f value) :=
  ext (map_putEntry f key value m.entries)

theorem ofList_append_singleton (entries : List (α × β)) (entry : α × β) :
    ofList (entries ++ [entry]) = (ofList entries).insert entry.1 entry.2 := by
  simp [ofList, List.foldl_append]

theorem keys_ofList (entries : List (α × β)) :
    (ofList entries).keys = (entries.map Prod.fst).eraseDups := by
  induction entries using List.reverseRecOn with
  | nil => rfl
  | append_singleton entries entry ih =>
      rw [ofList_append_singleton, keys_insert, ih, List.map_append, List.map_singleton,
        eraseDups_concat]
      simp only [List.mem_eraseDups]

-- The last pair is the first one from the end.
theorem get?_ofList (entries : List (α × β)) (key : α) :
    (ofList entries).get? key = entries.reverse.lookup key := by
  induction entries using List.reverseRecOn with
  | nil => rfl
  | append_singleton entries entry ih =>
      obtain ⟨name, value⟩ := entry
      rw [ofList_append_singleton, get?_insert, ih, List.reverse_append]
      by_cases h : key = name
      · simp [h]
      · simp [List.lookup_cons, h, beq_eq_false_iff_ne.mpr h]

theorem get?_eq_none_iff {m : OrderedMap α β} {key : α} :
    m.get? key = none ↔ key ∉ m.keys :=
  lookupEntry_eq_none_iff

-- One value under all the keys.
theorem get?_ofList_const (keys : List α) (value : β) (key : α) :
    (ofList (keys.map fun other => (other, value))).get? key =
      if key ∈ keys then some value else none := by
  induction keys using List.reverseRecOn with
  | nil => rfl
  | append_singleton keys other ih =>
      rw [List.map_append, List.map_singleton, ofList_append_singleton, get?_insert, ih]
      by_cases h : key = other
      · simp [h]
      · simp [h]

-- Pairs with distinct keys are kept as they are.
theorem entries_ofList {entries : List (α × β)} (h : (entries.map Prod.fst).Nodup) :
    (ofList entries).entries = entries := by
  induction entries using List.reverseRecOn with
  | nil => rfl
  | append_singleton entries entry ih =>
      rw [List.map_append, List.nodup_append] at h
      obtain ⟨hn, -, hd⟩ := h
      have hm : entry.1 ∉ entries.map Prod.fst := fun hm => hd _ hm _ (by simp) rfl
      rw [ofList_append_singleton, entries_insert, ih hn, putEntry_of_notMem _ _ hm]

theorem erase_insert (m : OrderedMap α β) (key other : α) (value : β) :
    (m.insert key value).erase other =
      if key = other then m.erase other else (m.erase other).insert key value := by
  refine ext ((filter_putEntry key other value m.entries).trans ?_)
  split <;> rfl

theorem erase_ofList (entries : List (α × β)) (key : α) :
    (ofList entries).erase key = ofList (entries.filter fun entry => entry.1 ≠ key) := by
  induction entries using List.reverseRecOn with
  | nil => rfl
  | append_singleton entries entry ih =>
      rw [ofList_append_singleton, erase_insert, ih, List.filter_append]
      by_cases h : entry.1 = key
      · simp [h]
      · simp [h, ofList_append_singleton]

theorem ofList_entries (m : OrderedMap α β) : ofList m.entries = m :=
  ext (entries_ofList m.nodup)

-- The values in order are what is found under the keys in order.
theorem map_values (m : OrderedMap α β) (f : β → Nat) :
    m.values.map f = m.keys.map fun key => ((m.get? key).map f).getD 0 := by
  rw [values, keys, List.map_map, List.map_map]
  refine List.map_congr_left fun entry hm => ?_
  simp [get?, lookupEntry_of_mem m.nodup hm]

-- `m` is what is read off `pairs`: one key for each name, in the order of the first pair with that
-- name, and under it what `R` makes of the value of the last one.
structure Reads (R : β → γ → Prop) (pairs : List (α × β)) (m : OrderedMap α γ) : Prop where
  keys : m.keys = (pairs.map Prod.fst).eraseDups
  values : ∀ key, Option.Rel R (pairs.reverse.lookup key) (m.get? key)

private theorem lookup_rel {R : β → γ → Prop} {pairs : List (α × β)} {entries : List (α × γ)}
    (h : List.Forall₂ (fun pair entry => pair.1 = entry.1 ∧ R pair.2 entry.2) pairs entries)
    (key : α) : Option.Rel R (pairs.lookup key) (entries.lookup key) := by
  induction h with
  | nil => exact .none
  | @cons pair entry _ _ hp _ ih =>
      obtain ⟨name, value⟩ := pair
      obtain ⟨_, found⟩ := entry
      obtain ⟨rfl, hr⟩ := hp
      rw [List.lookup_cons, List.lookup_cons]
      cases key == name with
      | true => exact .some hr
      | false => exact ih

-- Values taken over pair by pair are read off the pairs.
theorem reads_ofList {R : β → γ → Prop} {pairs : List (α × β)} {entries : List (α × γ)}
    (h : List.Forall₂ (fun pair entry => pair.1 = entry.1 ∧ R pair.2 entry.2) pairs entries) :
    Reads R pairs (ofList entries) := by
  have hk : pairs.map Prod.fst = entries.map Prod.fst := by
    induction h with
    | nil => rfl
    | cons hp _ ih => simp [hp.1, ih]
  refine ⟨by rw [keys_ofList, hk], fun key => ?_⟩
  rw [get?_ofList]
  exact lookup_rel (List.forall₂_reverse_iff.mpr h) key

end OrderedMap

end ContentForms
