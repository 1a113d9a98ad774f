/-!
Tables that keep the order in which their keys first came. Storing under a key that is present
replaces its value and leaves its place alone; a new key goes to the end.
-/

namespace ScriptBridge

/-- A list of keys with values, in the order in which the keys first came. -/
structure Table (κ α : Type) where
  entries : List (κ × α)

namespace Table

variable {κ α β : Type}

/-- The table without entries. -/
def empty : Table κ α := ⟨[]⟩

instance : EmptyCollection (Table κ α) := ⟨empty⟩

instance : Inhabited (Table κ α) := ⟨empty⟩

/-- The keys in order. -/
def keys (table : Table κ α) : List κ :=
  table.entries.map (·.1)

/-- The number of keys. -/
def size (table : Table κ α) : Nat :=
  table.entries.length

variable [DecidableEq κ]

/-- The value in a list of entries under a key. -/
def find (key : κ) : List (κ × α) → Option α
  | [] => none
  | (k, a) :: rest => if k = key then some a else find key rest

/-- Stores a value in a list of entries under a key. -/
def store (key : κ) (value : α) : List (κ × α) → List (κ × α)
  | [] => [(key, value)]
  | (k, a) :: rest => if k = key then (k, value) :: rest else (k, a) :: store key value rest

/-- The value under a key. -/
def get? (table : Table κ α) (key : κ) : Option α :=
  find key table.entries

/-- Whether something is stored under the key. -/
def contains (table : Table κ α) (key : κ) : Bool :=
  (table.get? key).isSome

/-- Stores a value under a key. -/
def insert (table : Table κ α) (key : κ) (value : α) : Table κ α :=
  ⟨store key value table.entries⟩

/-- The table without the key. -/
def erase (table : Table κ α) (key : κ) : Table κ α :=
  ⟨table.entries.filter (·.1 ≠ key)⟩

@[simp] theorem get?_empty (key : κ) : (empty : Table κ α).get? key = none := rfl

theorem find_store (entries : List (κ × α)) (key other : κ) (value : α) :
    find other (store key value entries) = if key = other then some value else find other entries := by
  induction entries with
  | nil => simp [store, find]
  | cons entry rest ih =>
    obtain ⟨k, a⟩ := entry
    by_cases hk : k = key
    · subst hk
      simp [store, find]
      split <;> simp_all
    · by_cases ho : k = other
      · subst ho
        simp [store, find, hk, Ne.symm hk]
      · simp [store, find, hk, ho, ih]

/-- What is stored under a key is found there, and the other keys keep their values. -/
theorem get?_insert (table : Table κ α) (key other : κ) (value : α) :
    (table.insert key value).get? other = if key = other then some value else table.get? other :=
  find_store table.entries key other value

theorem keys_store (entries : List (κ × α)) (key : κ) (value : α) :
    (store key value entries).map (·.1)
      = if key ∈ entries.map (·.1) then entries.map (·.1) else entries.map (·.1) ++ [key] := by
  induction entries with
  | nil => simp [store]
  | cons entry rest ih =>
    obtain ⟨k, a⟩ := entry
    by_cases hk : k = key
    · simp [store, hk]
    · have hk' : ¬ key = k := fun h => hk h.symm
      simp only [store, hk, if_false, List.map_cons, ih, List.mem_cons, hk', false_or]
      split <;> simp

/-- A new key goes to the end, a known one stays where it is. -/
theorem keys_insert (table : Table κ α) (key : κ) (value : α) :
    (table.insert key value).keys = if key ∈ table.keys then table.keys else table.keys ++ [key] :=
  keys_store table.entries key value

/-- What is in the entries after storing is what was stored or was there before. -/
theorem mem_store {entries : List (κ × α)} {key : κ} {value : α} {entry : κ × α}
    (mem : entry ∈ store key value entries) : entry = (key, value) ∨ entry ∈ entries := by
  induction entries with
  | nil => simpa [store] using mem
  | cons first rest ih =>
    obtain ⟨k, a⟩ := first
    by_cases hk : k = key
    · rw [store, if_pos hk, hk, List.mem_cons] at mem
      exact mem.imp_right (List.mem_cons_of_mem _)
    · rw [store, if_neg hk, List.mem_cons] at mem
      rcases mem with rfl | mem
      · exact .inr List.mem_cons_self
      · exact (ih mem).imp_right (List.mem_cons_of_mem _)

/-- Of distinct keys, each has what stands with it. -/
theorem find_of_mem {entries : List (κ × α)} (distinct : (entries.map (·.1)).Nodup) {key : κ} {value : α}
    (mem : (key, value) ∈ entries) : find key entries = some value := by
  induction entries with
  | nil => cases mem
  | cons first rest ih =>
    obtain ⟨k, a⟩ := first
    obtain ⟨new, others⟩ := List.nodup_cons.1 distinct
    rcases List.mem_cons.1 mem with same | mem
    · cases same
      exact if_pos rfl
    · have listed : key ∈ rest.map (·.1) := List.mem_map_of_mem mem
      have differs : k ≠ key := fun same => new (same ▸ listed)
      rw [find, if_neg differs, ih others mem]

/-- Storing keeps the keys distinct. -/
theorem nodup_keys_store {entries : List (κ × α)} (distinct : (entries.map (·.1)).Nodup)
    (key : κ) (value : α) : ((store key value entries).map (·.1)).Nodup := by
  rw [keys_store]
  split
  · exact distinct
  · next new =>
      refine List.nodup_append.2 ⟨distinct, List.pairwise_singleton .., ?_⟩
      intro k mem other single same
      rw [List.mem_singleton.1 single] at same
      exact new (same ▸ mem)

/-- What is stored under a new key goes to the end. -/
theorem store_of_not_mem {entries : List (κ × α)} {key : κ} (new : key ∉ entries.map (·.1))
    (value : α) : store key value entries = entries ++ [(key, value)] := by
  induction entries with
  | nil => rfl
  | cons first rest ih =>
    simp only [List.map_cons, List.mem_cons, not_or] at new
    rw [store, if_neg (Ne.symm new.1), ih new.2, List.cons_append]

end Table

end ScriptBridge
