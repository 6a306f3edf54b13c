/-
This file extends Mathlib's association lists to the tables an event-driven
program keeps: a table is iterated in an order its insertions may change, an
insertion never overwrites, and a handler updates values in place. A rehash
carries the proof that it only reorders, so no lookup depends on it.
-/

import Mathlib.Data.List.AList

/-- A table from keys to values, in its current iteration order. -/
abbrev Table (Key Value : Type*) := AList fun _ : Key => Value

/-- The iteration order an insertion leaves behind: any reordering of the entries. -/
structure Rehash (Key Value : Type*) where
  reorder : Table Key Value → Table Key Value
  perm : ∀ table, (reorder table).entries.Perm table.entries

namespace Rehash

variable {Key Value : Type*}

/-- Keep the order. -/
def keep : Rehash Key Value where
  reorder table := table
  perm _ := List.Perm.refl _

instance : Inhabited (Rehash Key Value) := ⟨keep⟩

end Rehash

namespace Table

variable {Key Value : Type*} [DecidableEq Key]

/-- The number of entries. -/
def size (table : Table Key Value) : Nat := table.entries.length

/-- The values in iteration order. -/
def values (table : Table Key Value) : List Value := table.entries.map Sigma.snd

/-- Update every value in place. -/
def mapValues (update : Key → Value → Value) (table : Table Key Value) : Table Key Value where
  entries := table.entries.map fun entry => ⟨entry.1, update entry.1 entry.2⟩
  nodupKeys := by
    have keys : (table.entries.map fun entry => (⟨entry.1, update entry.1 entry.2⟩ :
        Sigma fun _ : Key => Value)).keys = table.entries.keys := by
      rw [List.keys, List.map_map]
      rfl
    rw [List.NodupKeys, keys]
    exact table.nodupKeys

/-- Update the value of one key in place. -/
def modify (key : Key) (update : Value → Value) (table : Table Key Value) : Table Key Value :=
  mapValues (fun other value => if other = key then update value else value) table

/-- Insert a fresh key; a key that is present keeps its value. -/
def emplace (rehash : Rehash Key Value) (key : Key) (value : Value) (table : Table Key Value) :
    Table Key Value :=
  if key ∈ table then table else rehash.reorder (table.insert key value)

/-! ### Lookups -/

theorem lookup_mapValues (update : Key → Value → Value) (table : Table Key Value) (key : Key) :
    (mapValues update table).lookup key = (table.lookup key).map (update key) := by
  cases present : table.lookup key with
  | none =>
    rw [AList.lookup_eq_none, AList.mem_keys] at present
    rw [Option.map_none, AList.lookup_eq_none, AList.mem_keys]
    have keys : (mapValues update table).keys = table.keys := by
      show List.map Sigma.fst (List.map _ _) = _
      rw [List.map_map]
      rfl
    rwa [keys]
  | some value =>
    have entry := AList.mem_lookup_iff.mp (Option.mem_def.mpr present)
    exact Option.mem_def.mp (AList.mem_lookup_iff.mpr (List.mem_map.mpr ⟨_, entry, rfl⟩))

theorem lookup_modify (key : Key) (update : Value → Value) (table : Table Key Value)
    (other : Key) :
    (modify key update table).lookup other =
      if other = key then (table.lookup other).map update else table.lookup other := by
  rw [modify, lookup_mapValues]
  split
  · rfl
  · exact Option.map_id'

theorem lookup_modify_self (key : Key) (update : Value → Value) (table : Table Key Value) :
    (modify key update table).lookup key = (table.lookup key).map update := by
  rw [lookup_modify, if_pos rfl]

theorem lookup_reorder (rehash : Rehash Key Value) (table : Table Key Value) (key : Key) :
    (rehash.reorder table).lookup key = table.lookup key :=
  AList.perm_lookup (rehash.perm table)

theorem lookup_emplace {rehash : Rehash Key Value} {key : Key} {table : Table Key Value}
    (fresh : key ∉ table) (value : Value) (other : Key) :
    (emplace rehash key value table).lookup other =
      if other = key then some value else table.lookup other := by
  rw [emplace, if_neg fresh, lookup_reorder]
  split
  · rename_i same
    rw [same, AList.lookup_insert]
  · rename_i different
    rw [AList.lookup_insert_ne different]

theorem lookup_erase (table : Table Key Value) (key other : Key) :
    (table.erase key).lookup other = if other = key then none else table.lookup other := by
  split
  · rename_i same
    rw [same, AList.lookup_erase]
  · rename_i different
    rw [AList.lookup_erase_ne different]

theorem mem_iff_lookup {table : Table Key Value} {key : Key} :
    key ∈ table ↔ ∃ value, table.lookup key = some value := by
  rw [← AList.lookup_isSome, Option.isSome_iff_exists]

theorem mem_keys_iff_lookup {table : Table Key Value} {key : Key} :
    key ∈ table.keys ↔ ∃ value, table.lookup key = some value := by
  rw [← AList.mem_keys, mem_iff_lookup]

/-! ### Sizes -/

omit [DecidableEq Key] in
theorem size_mapValues (update : Key → Value → Value) (table : Table Key Value) :
    size (mapValues update table) = size table := List.length_map _

theorem size_modify (key : Key) (update : Value → Value) (table : Table Key Value) :
    size (modify key update table) = size table := size_mapValues _ _

theorem size_emplace_le (rehash : Rehash Key Value) (key : Key) (value : Value)
    (table : Table Key Value) : size (emplace rehash key value table) ≤ size table + 1 := by
  rw [emplace]
  split
  · exact Nat.le_succ _
  · rename_i absent
    rw [size, (rehash.perm _).length_eq, AList.entries_insert_of_notMem absent]
    exact Nat.le_refl _

theorem size_erase_le (key : Key) (table : Table Key Value) :
    size (table.erase key) ≤ size table := by
  have length (other : Table Key Value) : other.keys.length = size other := List.length_map _
  rw [← length, ← length, AList.keys_erase]
  exact List.length_erase_le

/-! ### Insertions that are taken back -/

theorem erase_insert_of_notMem {table : Table Key Value} {key : Key} (fresh : key ∉ table)
    (value : Value) : (table.insert key value).erase key = table := by
  refine AList.ext ?_
  show List.kerase key (List.kinsert key value table.entries) = table.entries
  rw [List.kinsert_def, List.kerase_of_notMem_keys fresh]
  exact List.kerase_cons_eq rfl

theorem size_eq_zero_iff {table : Table Key Value} :
    size table = 0 ↔ ∀ key, table.lookup key = none := by
  rw [size, List.length_eq_zero_iff]
  refine ⟨fun empty key => ?_, fun absent => ?_⟩
  · rw [AList.lookup_eq_none]
    show key ∉ table.entries.keys
    rw [empty]
    exact List.not_mem_nil
  · refine List.eq_nil_iff_forall_not_mem.mpr fun entry member => ?_
    exact AList.lookup_eq_none.mp (absent entry.1) (List.mem_keys_of_mem member)

end Table
