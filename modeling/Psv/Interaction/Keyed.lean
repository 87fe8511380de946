import Psv.Interaction.Checks
import Mathlib.Data.List.AList

/-!
# Collecting values under their keys

A loop over a list admits every item and stores the accepted value under its
key; a second, different value under a key is a conflict.  What the loop ends
with depends on the set of items only: it succeeds when every item is accepted
and no two accepted values share a key, and then it holds the accepted values.
-/

namespace Interaction

namespace Keyed

variable {α β κ ε : Type} [DecidableEq κ] [DecidableEq β]

/-- Values stored under their keys. -/
abbrev Store (κ β : Type) : Type := AList fun _ : κ => β

/-- Store a value under its key, unless a different value is there. -/
def record (key : β → κ) (conflict : β → ε) (store : Store κ β) (value : β) :
    Except ε (Store κ β) := do
  refuse (∃ previous ∈ store.lookup (key value), previous ≠ value) (conflict value)
  return store.insert (key value) value

/-- Admit and store every item of a list. -/
def collect (accept : α → Except ε β) (key : β → κ) (conflict : β → ε) (store : Store κ β)
    (items : List α) : Except ε (Store κ β) :=
  items.foldlM (fun store item => do
    let value ← accept item
    record key conflict store value) store

/-- Every value is stored under its own key. -/
def Store.Lawful (key : β → κ) (store : Store κ β) : Prop :=
  ∀ k value, store.lookup k = some value → key value = k

variable {accept : α → Except ε β} {key : β → κ} {conflict : β → ε} {store final : Store κ β}
  {items : List α}

theorem record_eq_ok_iff {value : β} :
    record key conflict store value = .ok final ↔
      (∀ previous, store.lookup (key value) = some previous → previous = value) ∧
        final = store.insert (key value) value := by
  simp only [record, Checks.bind_eq_ok_iff, refuse_eq_ok_iff, exists_const, pure, Except.pure,
    Except.ok.injEq, Option.mem_def, not_exists, not_and, not_not]
  constructor
  · rintro ⟨same, rfl⟩
    exact ⟨same, rfl⟩
  · rintro ⟨same, rfl⟩
    exact ⟨same, rfl⟩

omit [DecidableEq β] in
theorem Store.Lawful.insert (lawful : store.Lawful key) (value : β) :
    Store.Lawful key (store.insert (key value) value) := by
  intro k found lookup
  by_cases same : k = key value
  · subst same
    rw [AList.lookup_insert] at lookup
    cases lookup
    rfl
  · rw [AList.lookup_insert_ne same] at lookup
    exact lawful k found lookup

omit [DecidableEq β] in
theorem lawful_empty : Store.Lawful key (∅ : Store κ β) := by
  intro k value lookup
  rw [AList.lookup_empty] at lookup
  cases lookup

/-- A step keeps what is stored and adds its own value. -/
theorem lookup_of_record {value : β} (recorded : record key conflict store value = .ok final)
    (other : β) :
    final.lookup (key other) = some other ↔ store.lookup (key other) = some other ∨ other = value
      := by
  rcases record_eq_ok_iff.mp recorded with ⟨same, rfl⟩
  by_cases equal : key other = key value
  · rw [equal, AList.lookup_insert, Option.some.injEq]
    constructor
    · rintro rfl
      exact Or.inr rfl
    · rintro (stored | rfl)
      · exact (same other stored).symm
      · rfl
  · rw [AList.lookup_insert_ne equal]
    constructor
    · exact Or.inl
    · rintro (stored | rfl)
      · exact stored
      · exact absurd rfl equal

/-- What a successful collection holds, and that it met no conflict. -/
theorem collect_ok (collected : collect accept key conflict store items = .ok final)
    (lawful : store.Lawful key) :
    final.Lawful key ∧ (∀ item ∈ items, ∃ value, accept item = .ok value) ∧
      ∀ value, final.lookup (key value) = some value ↔
        store.lookup (key value) = some value ∨ ∃ item ∈ items, accept item = .ok value := by
  induction items generalizing store with
  | nil =>
      cases collected
      simp [lawful]
  | cons item items ih =>
      rw [collect, List.foldlM_cons] at collected
      rcases Checks.bind_eq_ok_iff.mp collected with ⟨middle, step, rest⟩
      rcases Checks.bind_eq_ok_iff.mp step with ⟨value, accepted, recorded⟩
      have middleLawful : middle.Lawful key := by
        rcases record_eq_ok_iff.mp recorded with ⟨_, rfl⟩
        exact lawful.insert value
      rcases ih rest middleLawful with ⟨finalLawful, all, holds⟩
      refine ⟨finalLawful, ?_, ?_⟩
      · intro other mem
        rcases List.mem_cons.mp mem with rfl | later
        · exact ⟨value, accepted⟩
        · exact all other later
      · intro other
        rw [holds other, lookup_of_record recorded]
        constructor
        · rintro ((stored | rfl) | ⟨source, later, found⟩)
          · exact Or.inl stored
          · exact Or.inr ⟨item, List.mem_cons_self, accepted⟩
          · exact Or.inr ⟨source, List.mem_cons_of_mem _ later, found⟩
        · rintro (stored | ⟨source, mem, found⟩)
          · exact Or.inl (Or.inl stored)
          · rcases List.mem_cons.mp mem with rfl | later
            · rw [accepted] at found
              cases found
              exact Or.inl (Or.inr rfl)
            · exact Or.inr ⟨source, later, found⟩

/-- A collection that fails has met an item that is not accepted or two values under one key. -/
theorem collect_error {error : ε} (failed : collect accept key conflict store items = .error error)
    (lawful : store.Lawful key) :
    (∃ item ∈ items, ∃ error, accept item = .error error) ∨
      ∃ item ∈ items, ∃ value other, accept item = .ok value ∧ key other = key value ∧
        other ≠ value ∧
          (store.lookup (key other) = some other ∨ ∃ source ∈ items, accept source = .ok other) := by
  induction items generalizing store with
  | nil => cases failed
  | cons item items ih =>
      rw [collect, List.foldlM_cons] at failed
      rcases accepted : accept item with refused | value
      · exact Or.inl ⟨item, List.mem_cons_self, refused, accepted⟩
      · rcases recorded : record key conflict store value with refused | middle
        · right
          by_contra harmless
          have same : ∀ previous, store.lookup (key value) = some previous → previous = value := by
            intro previous stored
            by_contra different
            have under := lawful _ _ stored
            exact harmless ⟨item, List.mem_cons_self, value, previous, accepted, under, different,
              Or.inl (under ▸ stored)⟩
          have accepted : record key conflict store value =
              .ok (store.insert (key value) value) := record_eq_ok_iff.mpr ⟨same, rfl⟩
          rw [recorded] at accepted
          cases accepted
        · rw [accepted, Checks.ok_bind, recorded, Checks.ok_bind] at failed
          have middleLawful : middle.Lawful key := by
            rcases record_eq_ok_iff.mp recorded with ⟨_, rfl⟩
            exact lawful.insert value
          rcases ih failed middleLawful with ⟨source, later, refused⟩ |
            ⟨source, later, found, other, found_eq, under, different, stored | ⟨third, inRest, third_eq⟩⟩
          · exact Or.inl ⟨source, List.mem_cons_of_mem _ later, refused⟩
          · rcases (lookup_of_record recorded other).mp stored with stored | rfl
            · exact Or.inr ⟨source, List.mem_cons_of_mem _ later, found, other, found_eq, under,
                different, Or.inl stored⟩
            · exact Or.inr ⟨source, List.mem_cons_of_mem _ later, found, other, found_eq, under,
                different, Or.inr ⟨item, List.mem_cons_self, accepted⟩⟩
          · exact Or.inr ⟨source, List.mem_cons_of_mem _ later, found, other, found_eq, under,
              different, Or.inr ⟨third, List.mem_cons_of_mem _ inRest, third_eq⟩⟩

/-- Some item is not accepted, or two accepted values share a key. -/
def Conflicting (accept : α → Except ε β) (key : β → κ) (items : List α) : Prop :=
  (∃ item ∈ items, ∃ error, accept item = .error error) ∨
    ∃ left ∈ items, ∃ right ∈ items, ∃ value other, accept left = .ok value ∧
      accept right = .ok other ∧ key value = key other ∧ value ≠ other

/-- A collection from nothing fails exactly on conflicting items. -/
theorem collect_empty_error_iff :
    (∃ error, collect accept key conflict ∅ items = .error error) ↔
      Conflicting accept key items := by
  constructor
  · rintro ⟨error, failed⟩
    rcases collect_error failed lawful_empty with refused |
      ⟨item, mem, value, other, accepted, under, different, stored | ⟨source, inItems, other_eq⟩⟩
    · exact Or.inl refused
    · rw [AList.lookup_empty] at stored
      cases stored
    · exact Or.inr ⟨item, mem, source, inItems, value, other, accepted, other_eq, under.symm,
        Ne.symm different⟩
  · intro conflicting
    rcases collected : collect accept key conflict ∅ items with error | final
    · exact ⟨error, rfl⟩
    · rcases collect_ok collected lawful_empty with ⟨_, all, holds⟩
      rcases conflicting with ⟨item, mem, error, refused⟩ |
        ⟨left, leftMem, right, rightMem, value, other, accepted, other_eq, same, different⟩
      · rcases all item mem with ⟨value, accepted⟩
        rw [refused] at accepted
        cases accepted
      · have first := (holds value).mpr (Or.inr ⟨left, leftMem, accepted⟩)
        have second := (holds other).mpr (Or.inr ⟨right, rightMem, other_eq⟩)
        rw [same, second] at first
        cases first
        exact absurd rfl different

/-- The values of a store, in the order of their first insertion or another one. -/
def Store.values (store : Store κ β) : List β := store.entries.map Sigma.snd

omit [DecidableEq β] in
theorem mem_values_iff (lawful : store.Lawful key) {value : β} :
    value ∈ store.values ↔ store.lookup (key value) = some value := by
  rw [← Option.mem_def, AList.mem_lookup_iff, Store.values, List.mem_map]
  constructor
  · rintro ⟨⟨k, found⟩, mem, rfl⟩
    have under := lawful k found (AList.mem_lookup_iff.mpr mem)
    rwa [under]
  · intro mem
    exact ⟨_, mem, rfl⟩

omit [DecidableEq β] in
theorem nodup_values (lawful : store.Lawful key) : store.values.Nodup := by
  apply List.Nodup.map_on _ (List.NodupKeys.nodup store.nodupKeys)
  rintro ⟨k, value⟩ mem ⟨l, other⟩ otherMem same
  have left := lawful k value (AList.mem_lookup_iff.mpr mem)
  have right := lawful l other (AList.mem_lookup_iff.mpr otherMem)
  cases same
  cases left.symm.trans right
  rfl

/-- A collection from nothing holds the accepted values. -/
theorem mem_values_of_collect (collected : collect accept key conflict ∅ items = .ok final)
    {value : β} : value ∈ final.values ↔ ∃ item ∈ items, accept item = .ok value := by
  rcases collect_ok collected lawful_empty with ⟨lawful, _, holds⟩
  rw [mem_values_iff lawful, holds, AList.lookup_empty]
  simp

omit [DecidableEq κ] [DecidableEq β] in
theorem conflicting_congr {others : List α} (same : ∀ item, item ∈ items ↔ item ∈ others) :
    Conflicting accept key items ↔ Conflicting accept key others := by
  simp only [Conflicting, same]

end Keyed

end Interaction
