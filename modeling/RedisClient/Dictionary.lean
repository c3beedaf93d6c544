/-!
# Dictionaries

A dictionary binds keys to values and keeps the order in which the keys first
came. Binding a key again replaces its value in place, so of several values for
one key the last one holds (`get?_insert`).
-/

namespace RedisClient

namespace Entries

variable {κ ν : Type} [DecidableEq κ]

/-- Binds a key in a list of entries. -/
def insert (key : κ) (value : ν) : List (κ × ν) → List (κ × ν)
  | [] => [(key, value)]
  | entry :: rest =>
    if entry.1 = key then (key, value) :: rest else entry :: insert key value rest

/-- The value of the first entry with a key. -/
def get? (key : κ) : List (κ × ν) → Option ν
  | [] => none
  | entry :: rest => if entry.1 = key then some entry.2 else get? key rest

/-- Binding a key adds no other key. -/
theorem mem_keys_insert {key k : κ} {value : ν} {entries : List (κ × ν)} :
    k ∈ (insert key value entries).map Prod.fst ↔ k = key ∨ k ∈ entries.map Prod.fst := by
  induction entries with
  | nil => simp [insert]
  | cons entry rest ih =>
    by_cases h : entry.1 = key
    · simp [insert, h]
    · simp only [insert, if_neg h, List.map_cons, List.mem_cons, ih]
      constructor
      · rintro (h | h | h) <;> simp [h]
      · rintro (h | h | h) <;> simp [h]

/-- Binding a key keeps keys apart. -/
theorem nodup_insert {key : κ} {value : ν} {entries : List (κ × ν)}
    (h : (entries.map Prod.fst).Nodup) : ((insert key value entries).map Prod.fst).Nodup := by
  induction entries with
  | nil => simp [insert]
  | cons entry rest ih =>
    simp only [List.map_cons, List.nodup_cons] at h
    by_cases hk : entry.1 = key
    · simp only [insert, if_pos hk, List.map_cons, List.nodup_cons]
      exact ⟨hk ▸ h.1, h.2⟩
    · simp only [insert, if_neg hk, List.map_cons, List.nodup_cons, mem_keys_insert, not_or]
      exact ⟨⟨hk, h.1⟩, ih h.2⟩

/-- A key just bound has the new value; other keys keep theirs. -/
theorem get?_insert {key k : κ} {value : ν} {entries : List (κ × ν)} :
    get? k (insert key value entries) = if k = key then some value else get? k entries := by
  induction entries with
  | nil => simp [insert, get?, eq_comm]
  | cons entry rest ih =>
    by_cases h : entry.1 = key
    · by_cases hk : k = key
      · simp [insert, get?, h, hk]
      · simp [insert, get?, h, hk, Ne.symm hk]
    · by_cases he : entry.1 = k
      · have hk : k ≠ key := fun hk => h (he.trans hk)
        simp [insert, get?, he, hk]
      · simp [insert, get?, h, he, ih]

end Entries

/-- A finite map in the order in which its keys first came. -/
structure Dictionary (κ ν : Type) where
  /-- The keys with their values. -/
  entries : List (κ × ν)
  /-- No key is bound twice. -/
  nodup : (entries.map Prod.fst).Nodup
  deriving DecidableEq, Repr

namespace Dictionary

variable {κ ν : Type} [DecidableEq κ]

/-- The dictionary without keys. -/
def empty : Dictionary κ ν := ⟨[], List.nodup_nil⟩

instance : Inhabited (Dictionary κ ν) := ⟨empty⟩

/-- Binds a key. -/
def insert (d : Dictionary κ ν) (key : κ) (value : ν) : Dictionary κ ν :=
  ⟨Entries.insert key value d.entries, Entries.nodup_insert d.nodup⟩

/-- The value of a key. -/
def get? (d : Dictionary κ ν) (key : κ) : Option ν := Entries.get? key d.entries

/-- Binds the keys of pairs, one after the other. -/
def ofPairs (pairs : List (κ × ν)) : Dictionary κ ν :=
  pairs.foldl (fun d pair => d.insert pair.1 pair.2) empty

/-- A key just bound has the new value; other keys keep theirs. -/
theorem get?_insert {d : Dictionary κ ν} {key k : κ} {value : ν} :
    (d.insert key value).get? k = if k = key then some value else d.get? k :=
  Entries.get?_insert

end Dictionary

end RedisClient
