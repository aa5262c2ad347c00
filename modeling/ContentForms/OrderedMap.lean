namespace ContentForms

-- The rule on bare lists of entries: replace in place, or append.
def putEntry [DecidableEq α] (key : α) (value : β) : List (α × β) → List (α × β)
  | [] => [(key, value)]
  | entry :: rest =>
      if entry.1 = key then (key, value) :: rest else entry :: putEntry key value rest

@[simp] theorem putEntry_nil [DecidableEq α] (key : α) (value : β) :
    putEntry key value [] = [(key, value)] := rfl

-- The keys stay as they are, or get one new key at the end.
theorem keys_putEntry [DecidableEq α] (key : α) (value : β) (entries : List (α × β)) :
    (putEntry key value entries).map Prod.fst =
      if key ∈ entries.map Prod.fst then entries.map Prod.fst
      else entries.map Prod.fst ++ [key] := by
  induction entries with
  | nil => simp
  | cons entry rest ih =>
      by_cases h : entry.1 = key
      · simp [putEntry, h]
      · have h' : ¬ key = entry.1 := fun e => h e.symm
        by_cases hm : key ∈ rest.map Prod.fst <;> simp_all [putEntry]

theorem nodup_keys_putEntry [DecidableEq α] (key : α) (value : β) {entries : List (α × β)}
    (h : (entries.map Prod.fst).Nodup) : ((putEntry key value entries).map Prod.fst).Nodup := by
  rw [keys_putEntry]
  split
  · exact h
  · rename_i hn
    rw [List.nodup_append]
    exact ⟨h, by simp, fun a ha b hb e => hn (by simp_all)⟩

def lookupEntry [DecidableEq α] (key : α) : List (α × β) → Option β
  | [] => none
  | entry :: rest => if entry.1 = key then some entry.2 else lookupEntry key rest

-- What is found under a key after a put.
theorem lookupEntry_putEntry [DecidableEq α] (key other : α) (value : β)
    (entries : List (α × β)) :
    lookupEntry other (putEntry key value entries) =
      if other = key then some value else lookupEntry other entries := by
  induction entries with
  | nil => by_cases h : key = other <;> simp [lookupEntry, h, eq_comm]
  | cons entry rest ih => grind [putEntry, lookupEntry]

-- A map from `α` to `β` whose entries stand in the order of their keys' first insertion.
structure OrderedMap (α β : Type) where
  entries : List (α × β)
  nodup : (entries.map Prod.fst).Nodup

namespace OrderedMap

instance : Inhabited (OrderedMap α β) := ⟨⟨[], List.nodup_nil⟩⟩

def empty : OrderedMap α β := ⟨[], List.nodup_nil⟩

instance : EmptyCollection (OrderedMap α β) := ⟨empty⟩

theorem ext {m n : OrderedMap α β} (h : m.entries = n.entries) : m = n := by
  cases m; cases n; cases h; rfl

instance [DecidableEq α] [DecidableEq β] : DecidableEq (OrderedMap α β) := fun m n =>
  if h : m.entries = n.entries then isTrue (ext h) else isFalse fun e => h (congrArg entries e)

def keys (m : OrderedMap α β) : List α := m.entries.map Prod.fst

def values (m : OrderedMap α β) : List β := m.entries.map Prod.snd

def size (m : OrderedMap α β) : Nat := m.entries.length

def isEmpty (m : OrderedMap α β) : Bool := m.entries.isEmpty

def get? [DecidableEq α] (m : OrderedMap α β) (key : α) : Option β := lookupEntry key m.entries

def insert [DecidableEq α] (m : OrderedMap α β) (key : α) (value : β) : OrderedMap α β :=
  ⟨putEntry key value m.entries, nodup_keys_putEntry key value m.nodup⟩

def ofList [DecidableEq α] (entries : List (α × β)) : OrderedMap α β :=
  entries.foldl (fun m entry => m.insert entry.1 entry.2) empty

def erase [DecidableEq α] (m : OrderedMap α β) (key : α) : OrderedMap α β :=
  ⟨m.entries.filter (fun entry => entry.1 ≠ key),
    List.Nodup.sublist (List.Sublist.map _ List.filter_sublist) m.nodup⟩

theorem keys_map_entries (f : β → γ) (entries : List (α × β)) :
    (entries.map fun entry => (entry.1, f entry.2)).map Prod.fst = entries.map Prod.fst := by
  rw [List.map_map]
  rfl

-- Other values under the same keys.
def map (f : β → γ) (m : OrderedMap α β) : OrderedMap α γ :=
  ⟨m.entries.map fun entry => (entry.1, f entry.2), keys_map_entries f m.entries ▸ m.nodup⟩

@[simp] theorem keys_map (f : β → γ) (m : OrderedMap α β) : (m.map f).keys = m.keys :=
  keys_map_entries f m.entries

@[simp] theorem entries_empty : (empty : OrderedMap α β).entries = [] := rfl

@[simp] theorem keys_empty : (empty : OrderedMap α β).keys = [] := rfl

@[simp] theorem entries_insert [DecidableEq α] (m : OrderedMap α β) (key : α) (value : β) :
    (m.insert key value).entries = putEntry key value m.entries := rfl

theorem keys_insert [DecidableEq α] (m : OrderedMap α β) (key : α) (value : β) :
    (m.insert key value).keys = if key ∈ m.keys then m.keys else m.keys ++ [key] :=
  keys_putEntry key value m.entries

theorem get?_insert [DecidableEq α] (m : OrderedMap α β) (key other : α) (value : β) :
    (m.insert key value).get? other = if other = key then some value else m.get? other :=
  lookupEntry_putEntry key other value m.entries

end OrderedMap

end ContentForms
