import Mathlib.Data.List.Induction
import RedisClient.Dictionary

/-!
# What a dictionary binds

A dictionary that is made of pairs binds each key to the value of its last pair
(`LastValue`) and binds nothing else (`Dictionary.get?_ofPairs_eq_some_iff`). Its
own entries are such pairs without repeated keys, so what it binds and what its
entries say is the same (`Dictionary.lastValue_entries_iff`).
-/

namespace RedisClient

variable {κ κ' ν ν' : Type}

/-- **The last value of a key** among pairs: no pair behind it has the key. -/
def LastValue (pairs : List (κ × ν)) (key : κ) (value : ν) : Prop :=
  ∃ before after, pairs = before ++ (key, value) :: after ∧ key ∉ after.map Prod.fst

namespace LastValue

variable {pairs : List (κ × ν)} {key : κ} {value : ν}

/-- It stands in a pair. -/
theorem mem (h : LastValue pairs key value) : (key, value) ∈ pairs := by
  obtain ⟨before, after, rfl, -⟩ := h
  exact List.mem_append_right _ List.mem_cons_self

/-- Without pairs there is none. -/
theorem not_nil : ¬ LastValue ([] : List (κ × ν)) key value := by
  rintro ⟨before, after, heq, -⟩
  simp at heq

/-- **One more pair** has the last value of its key, and leaves those of other
keys. -/
theorem concat_iff [DecidableEq κ] {pair : κ × ν} :
    LastValue (pairs ++ [pair]) key value ↔
      if key = pair.1 then pair.2 = value else LastValue pairs key value := by
  obtain ⟨k, v⟩ := pair
  constructor
  · rintro ⟨before, after, heq, hnone⟩
    -- the pair is the one of the key, or stands behind it
    rcases List.eq_nil_or_concat after with rfl | ⟨front, last, rfl⟩
    · obtain ⟨-, hlast⟩ := List.append_inj' heq rfl
      obtain ⟨rfl, rfl⟩ : k = key ∧ v = value := by simpa using hlast
      rw [if_pos rfl]
    · rw [List.concat_eq_append] at heq hnone
      rw [← List.cons_append, ← List.append_assoc] at heq
      obtain ⟨rfl, hlast⟩ := List.append_inj' heq rfl
      obtain rfl : (k, v) = last := by simpa using hlast
      rw [List.map_append, List.mem_append, not_or] at hnone
      have hne : key ≠ k := by simpa using hnone.2
      rw [if_neg hne]
      exact ⟨before, front, rfl, hnone.1⟩
  · intro h
    by_cases hkey : key = k
    · rw [if_pos hkey] at h
      obtain rfl : v = value := h
      exact ⟨pairs, [], by rw [hkey], List.not_mem_nil⟩
    · rw [if_neg hkey] at h
      obtain ⟨before, after, rfl, hnone⟩ := h
      refine ⟨before, after ++ [(k, v)], by simp, ?_⟩
      simpa [hkey] using hnone

/-- Where no key stands twice, every pair has the last value of its key. -/
theorem iff_mem_of_nodup (hnodup : (pairs.map Prod.fst).Nodup) :
    LastValue pairs key value ↔ (key, value) ∈ pairs := by
  refine ⟨LastValue.mem, fun hmem => ?_⟩
  obtain ⟨before, after, rfl⟩ := List.append_of_mem hmem
  rw [List.map_append, List.map_cons, List.nodup_append] at hnodup
  exact ⟨before, after, rfl, (List.nodup_cons.1 hnodup.2.1).1⟩

/-- **Another spelling** of keys and values that tells them apart changes
nothing. -/
theorem map_iff {f : κ → κ'} {g : ν → ν'} (hf : Function.Injective f) (hg : Function.Injective g) :
    LastValue (pairs.map (Prod.map f g)) (f key) (g value) ↔ LastValue pairs key value := by
  constructor
  · rintro ⟨before, after, heq, hnone⟩
    obtain ⟨front, back, rfl, rfl, hback⟩ := List.map_eq_append_iff.1 heq
    obtain ⟨⟨k, v⟩, rest, rfl, hpair, rfl⟩ := List.map_eq_cons_iff.1 hback
    obtain ⟨hk, hv⟩ := Prod.mk.inj hpair
    obtain rfl := hf hk
    obtain rfl := hg hv
    refine ⟨front, rest, rfl, fun hmem => hnone ?_⟩
    obtain ⟨pair, hrest, rfl⟩ := List.mem_map.1 hmem
    exact List.mem_map.2 ⟨Prod.map f g pair, List.mem_map_of_mem hrest, rfl⟩
  · rintro ⟨before, after, rfl, hnone⟩
    refine ⟨before.map (Prod.map f g), after.map (Prod.map f g), by simp, fun hmem => hnone ?_⟩
    obtain ⟨pair, hpair, hkey⟩ := List.mem_map.1 hmem
    obtain ⟨original, horiginal, rfl⟩ := List.mem_map.1 hpair
    exact List.mem_map.2 ⟨original, horiginal, hf hkey⟩

end LastValue

/-! ## Dictionaries -/

variable [DecidableEq κ]

/-- An entry with a key is the first one, where no key stands twice. -/
theorem Entries.get?_eq_some_iff {key : κ} {value : ν} {entries : List (κ × ν)}
    (hnodup : (entries.map Prod.fst).Nodup) :
    get? key entries = some value ↔ (key, value) ∈ entries := by
  induction entries with
  | nil => simp [get?]
  | cons entry rest ih =>
    obtain ⟨k, v⟩ := entry
    obtain ⟨hfirst, hrest⟩ := List.nodup_cons.1 hnodup
    rw [get?, List.mem_cons, Prod.mk.injEq]
    by_cases hkey : k = key
    · subst hkey
      -- a later entry with the key would be a second one
      have hnone : (k, value) ∉ rest := fun hmem => hfirst (List.mem_map.2 ⟨_, hmem, rfl⟩)
      simp [hnone, eq_comm]
    · rw [if_neg hkey, ih hrest]
      simp [Ne.symm hkey]

namespace Dictionary

/-- What a dictionary binds stands in its entries. -/
theorem get?_eq_some_iff {d : Dictionary κ ν} {key : κ} {value : ν} :
    d.get? key = some value ↔ (key, value) ∈ d.entries :=
  Entries.get?_eq_some_iff d.nodup

/-- So its entries say what it binds. -/
theorem lastValue_entries_iff {d : Dictionary κ ν} {key : κ} {value : ν} :
    LastValue d.entries key value ↔ d.get? key = some value :=
  (LastValue.iff_mem_of_nodup d.nodup).trans get?_eq_some_iff.symm

/-- One more pair is bound over what was bound. -/
theorem ofPairs_concat (pairs : List (κ × ν)) (pair : κ × ν) :
    ofPairs (pairs ++ [pair]) = (ofPairs pairs).insert pair.1 pair.2 := by
  rw [ofPairs, List.foldl_append]
  rfl

/-- **A key is bound to the value of its last pair**, and a key without a pair is
not bound. -/
theorem get?_ofPairs_eq_some_iff {pairs : List (κ × ν)} {key : κ} {value : ν} :
    (ofPairs pairs).get? key = some value ↔ LastValue pairs key value := by
  induction pairs using List.reverseRecOn with
  | nil =>
    have hnone : (ofPairs ([] : List (κ × ν))).get? key = none := rfl
    rw [hnone]
    exact ⟨fun h => (nomatch h), fun h => (LastValue.not_nil h).elim⟩
  | append_singleton front pair ih =>
    rw [ofPairs_concat, get?_insert, LastValue.concat_iff]
    by_cases hkey : key = pair.1
    · rw [if_pos hkey, if_pos hkey, Option.some.injEq]
    · rw [if_neg hkey, if_neg hkey, ih]

end Dictionary

end RedisClient
