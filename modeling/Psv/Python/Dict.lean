import Mathlib.Data.List.AList

/-!
# Dictionaries

Finite maps in insertion order, as Python keeps them: an assignment to a key
that is present keeps its place, and an object that is the value of a key is
changed in place by `alter`.
-/

namespace Python

variable {κ ν : Type}

/-- A dictionary from keys to values. -/
abbrev Dict (κ ν : Type) : Type := AList fun _ : κ => ν

namespace Dict

variable [DecidableEq κ]

/-- An entry whose value is changed when it is the one of the key. -/
def changeEntry (key : κ) (change : ν → ν) (entry : Σ _ : κ, ν) : Σ _ : κ, ν :=
  if entry.1 = key then ⟨entry.1, change entry.2⟩ else entry

theorem changeEntry_fst (key : κ) (change : ν → ν) (entry : Σ _ : κ, ν) :
    (changeEntry key change entry).1 = entry.1 := by
  rw [changeEntry]
  split_ifs
  · rfl
  · rfl

theorem keys_map_changeEntry (key : κ) (change : ν → ν) (entries : List (Σ _ : κ, ν)) :
    (entries.map (changeEntry key change)).keys = entries.keys := by
  change (entries.map (changeEntry key change)).map Sigma.fst = entries.map Sigma.fst
  rw [List.map_map]
  exact List.map_congr_left fun entry _ => changeEntry_fst key change entry

/-- Change the object at a key in place. -/
def alter (dict : Dict κ ν) (key : κ) (change : ν → ν) : Dict κ ν where
  entries := dict.entries.map (changeEntry key change)
  nodupKeys := by
    rw [List.NodupKeys, keys_map_changeEntry]
    exact dict.nodupKeys

/-- `dict[key] = value` -/
def setItem (dict : Dict κ ν) (key : κ) (value : ν) : Dict κ ν :=
  if key ∈ dict then dict.alter key fun _ => value else dict.insert key value

/-- `dict.values()` -/
def values (dict : Dict κ ν) : List ν := dict.entries.map Sigma.snd

variable {dict : Dict κ ν} {key other : κ} {value : ν} {change : ν → ν}

theorem lookup_alter :
    (dict.alter key change).lookup other =
      if other = key then (dict.lookup key).map change else dict.lookup other := by
  apply Option.ext
  intro found
  rw [← Option.mem_def, AList.mem_lookup_iff]
  change _ ∈ dict.entries.map (changeEntry key change) ↔ _
  rw [List.mem_map]
  split_ifs with same
  · rw [Option.map_eq_some_iff]
    constructor
    · intro changed
      rcases changed with ⟨⟨entryKey, former⟩, mem, equal⟩
      have isKey : entryKey = key := by
        have first := congrArg Sigma.fst equal
        rw [changeEntry_fst] at first
        exact first.trans same
      rw [changeEntry, if_pos isKey, Sigma.mk.injEq] at equal
      exact ⟨former, AList.mem_lookup_iff.mpr (isKey ▸ mem), eq_of_heq equal.2⟩
    · intro former
      rcases former with ⟨former, isFormer, rfl⟩
      exact ⟨⟨key, former⟩, AList.mem_lookup_iff.mp isFormer, by rw [changeEntry, if_pos rfl, same]⟩
  · rw [← Option.mem_def, AList.mem_lookup_iff]
    constructor
    · intro changed
      rcases changed with ⟨entry, mem, equal⟩
      have isOther : entry.1 ≠ key := by
        rw [← changeEntry_fst key change entry, equal]
        exact same
      rw [changeEntry, if_neg isOther] at equal
      exact equal ▸ mem
    · intro mem
      exact ⟨_, mem, by rw [changeEntry, if_neg same]⟩

theorem lookup_alter_self : (dict.alter key change).lookup key = (dict.lookup key).map change := by
  rw [lookup_alter, if_pos rfl]

theorem lookup_alter_ne (different : other ≠ key) :
    (dict.alter key change).lookup other = dict.lookup other := by
  rw [lookup_alter, if_neg different]

theorem lookup_setItem :
    (dict.setItem key value).lookup other =
      if other = key then some value else dict.lookup other := by
  rw [setItem]
  split_ifs with mem same same
  · rcases Option.isSome_iff_exists.mp (AList.lookup_isSome.mpr mem) with ⟨former, found⟩
    rw [same, lookup_alter_self, found, Option.map_some]
  · rw [lookup_alter_ne same]
  · rw [same, AList.lookup_insert]
  · rw [AList.lookup_insert_ne same]

/-- Two changes of one object are one change. -/
theorem alter_alter (later : ν → ν) :
    (dict.alter key change).alter key later =
      dict.alter key fun former => later (change former) := by
  apply AList.ext
  change (dict.entries.map (changeEntry key change)).map (changeEntry key later) =
    dict.entries.map (changeEntry key _)
  rw [List.map_map]
  apply List.map_congr_left
  intro entry _
  rw [Function.comp_apply, changeEntry, changeEntry, changeEntry]
  split_ifs
  · rfl
  · rfl

/-- An object that is not changed leaves the dictionary as it is. -/
theorem alter_eq_self (same : ∀ found, dict.lookup key = some found → change found = found) :
    dict.alter key change = dict := by
  apply AList.ext
  change dict.entries.map (changeEntry key change) = dict.entries
  have unchanged : ∀ entry ∈ dict.entries, changeEntry key change entry = id entry := by
    intro entry mem
    rw [changeEntry, id_eq]
    split_ifs with isKey
    · rcases entry with ⟨entryKey, former⟩
      cases isKey
      rw [same former (AList.mem_lookup_iff.mpr mem)]
    · rfl
  rw [List.map_congr_left unchanged, List.map_id]

theorem mem_values_iff : value ∈ dict.values ↔ ∃ key, dict.lookup key = some value := by
  simp [values, ← AList.mem_lookup_iff]

end Dict

end Python
