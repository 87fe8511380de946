import Psv.Document.RoundTrip

/-!
# Keys, hooks and equality as maps

A dictionary has no key twice, and neither has a document made of dictionaries.
The hooks of `json.loads` leave such a document as it is, and writing it with
sorted keys loses nothing: two documents with the same sorted text agree at every
path.
-/

namespace Python

open Interaction

namespace Document

variable {φ : Type} {hook : Hook φ}

/-! ### The parts of a document -/

theorem sortItems_eq_map (items : List (Document φ)) : sortItems items = items.map sortKeys := by
  induction items with
  | nil => rfl
  | cons item items ih => rw [sortItems, ih, List.map_cons]

theorem sortMembers_eq_map (members : Members φ) :
    sortMembers members = members.map fun member => (member.1, sortKeys member.2) := by
  induction members with
  | nil => rfl
  | cons member members ih =>
      rcases member with ⟨key, value⟩
      rw [sortMembers, ih, List.map_cons]

theorem keyedItems_iff {items : List (Document φ)} :
    KeyedItems items ↔ ∀ item ∈ items, Keyed item := by
  induction items with
  | nil => simp [KeyedItems]
  | cons item items ih => simp [KeyedItems, ih]

theorem keyedMembers_iff {members : Members φ} :
    KeyedMembers members ↔ ∀ member ∈ members, Keyed member.2 := by
  induction members with
  | nil => simp [KeyedMembers]
  | cons member members ih =>
      rcases member with ⟨key, value⟩
      simp [KeyedMembers, ih]

theorem keyed_list_iff {items : List (Document φ)} :
    Keyed (.list items) ↔ ∀ item ∈ items, Keyed item := by
  rw [Keyed, keyedItems_iff]

theorem keyed_object_iff {members : Members φ} :
    Keyed (.object members) ↔
      (members.map Prod.fst).Nodup ∧ ∀ member ∈ members, Keyed member.2 := by
  rw [Keyed, keyedMembers_iff]

/-! ### Lookups -/

theorem lookup_eq_some_iff_mem {members : Members φ} (nodup : (members.map Prod.fst).Nodup)
    {key : Text} {value : Document φ} :
    members.lookup key = some value ↔ (key, value) ∈ members := by
  induction members with
  | nil => simp
  | cons member members ih =>
      rcases member with ⟨first, other⟩
      rw [List.map_cons, List.nodup_cons] at nodup
      by_cases same : key = first
      · subst same
        rw [List.lookup_cons_self, List.mem_cons, Prod.mk.injEq, Option.some.injEq]
        constructor
        · rintro rfl
          exact Or.inl ⟨rfl, rfl⟩
        · rintro (⟨_, rfl⟩ | mem)
          · rfl
          · exact absurd (List.mem_map_of_mem mem) nodup.1
      · have different : (key == first) = false := beq_eq_false_iff_ne.mpr same
        rw [List.lookup_cons, different, ih nodup.2, List.mem_cons, Prod.mk.injEq]
        constructor
        · exact Or.inr
        · rintro (⟨equal, _⟩ | mem)
          · exact absurd equal same
          · exact mem

theorem mem_of_lookup {members : Members φ} {key : Text} {value : Document φ}
    (found : members.lookup key = some value) : (key, value) ∈ members := by
  rcases List.lookup_eq_some_iff.mp found with ⟨before, after, rfl, _⟩
  exact List.mem_append_right _ List.mem_cons_self

theorem lookup_perm {members others : Members φ} (nodup : (members.map Prod.fst).Nodup)
    (perm : members.Perm others) (key : Text) : members.lookup key = others.lookup key := by
  have nodupOthers : (others.map Prod.fst).Nodup := (perm.map Prod.fst).nodup_iff.mp nodup
  apply Option.ext
  intro value
  rw [lookup_eq_some_iff_mem nodup, lookup_eq_some_iff_mem nodupOthers, perm.mem_iff]

theorem lookup_map (members : Members φ) (change : Document φ → Document φ) (key : Text) :
    (members.map fun member => (member.1, change member.2)).lookup key =
      (members.lookup key).map change := by
  induction members with
  | nil => rfl
  | cons member members ih =>
      rcases member with ⟨first, value⟩
      rw [List.map_cons, List.lookup_cons, List.lookup_cons, ih]
      cases key == first <;> rfl

/-! ### Assignments -/

theorem lookup_setMember (members : Members φ) (key : Text) (value : Document φ) (name : Text) :
    (setMember members key value).lookup name =
      if name = key then some value else members.lookup name := by
  unfold setMember
  split_ifs with mem same same
  · subst same
    induction members with
    | nil => cases mem
    | cons member members ih =>
        rcases member with ⟨first, other⟩
        by_cases here : first = name
        · subst here
          simp
        · have different : (name == first) = false := beq_eq_false_iff_ne.mpr (Ne.symm here)
          have later : name ∈ members.map Prod.fst := by
            rcases List.mem_cons.mp mem with equal | later
            · exact absurd equal.symm here
            · exact later
          rw [List.map_cons, if_neg here, List.lookup_cons, different]
          exact ih later
  · clear mem
    induction members with
    | nil => rfl
    | cons member members ih =>
        rcases member with ⟨first, other⟩
        have notKey : (name == key) = false := beq_eq_false_iff_ne.mpr same
        by_cases here : first = key
        · subst here
          simp only [List.map_cons, if_true, List.lookup_cons, notKey, ih]
        · simp only [List.map_cons, if_neg here, List.lookup_cons, ih]
  · subst same
    have absent : members.lookup name = none := by
      rw [List.lookup_eq_none_iff]
      intro member inside
      rw [bne_iff_ne]
      rintro rfl
      exact mem (List.mem_map_of_mem inside)
    rw [List.lookup_append, absent, List.lookup_cons_self]
    rfl
  · have notKey : (name == key) = false := beq_eq_false_iff_ne.mpr same
    rw [List.lookup_append, List.lookup_cons, notKey, List.lookup_nil, Option.or_none]

theorem keyed_setMember {members : Members φ} (keyed : (Document.object members).Keyed) {key : Text}
    {value : Document φ} (valueKeyed : value.Keyed) :
    (Document.object (setMember members key value)).Keyed := by
  rcases keyed_object_iff.mp keyed with ⟨nodup, inner⟩
  rw [keyed_object_iff]
  unfold setMember
  split_ifs with mem
  · constructor
    · have keys : (members.map fun member => if member.1 = key then (key, value) else member).map
          Prod.fst = members.map Prod.fst := by
        rw [List.map_map]
        apply List.map_congr_left
        intro member _
        by_cases here : member.1 = key
        · simp [here]
        · simp [here]
      rw [keys]
      exact nodup
    · intro member inside
      rcases List.mem_map.mp inside with ⟨old, oldMem, rfl⟩
      by_cases here : old.1 = key
      · rw [if_pos here]
        exact valueKeyed
      · rw [if_neg here]
        exact inner old oldMem
  · constructor
    · rw [List.map_append, List.map_cons, List.map_nil]
      exact List.nodup_append.mpr ⟨nodup, List.nodup_singleton _, by
        rintro name nameMem other otherMem rfl
        rw [List.mem_singleton.mp otherMem] at nameMem
        exact mem nameMem⟩
    · intro member inside
      rcases List.mem_append.mp inside with old | new
      · exact inner member old
      · rw [List.mem_singleton.mp new]
        exact valueKeyed

theorem shapeAt_object (members : Members φ) (name : Text) (path : List Step) :
    (Document.object members).shapeAt (.key name :: path) =
      (members.lookup name).bind fun inner => inner.shapeAt path :=
  rfl

/-- An assignment changes nothing at the paths where the new value agrees with the old one. -/
theorem shapeAt_setMember {members : Members φ} {key : Text} {value : Document φ}
    (Changed : List Step → Prop)
    (same : ∀ path, ¬Changed (.key key :: path) →
      value.shapeAt path = (members.lookup key).bind fun old => old.shapeAt path)
    {path : List Step} (outside : ¬Changed path) :
    (Document.object (setMember members key value)).shapeAt path =
      (Document.object members).shapeAt path := by
  rcases path with _ | ⟨step, path⟩
  · rfl
  · cases step with
    | index position => rfl
    | key name =>
        rw [shapeAt_object, shapeAt_object, lookup_setMember]
        split_ifs with here
        · subst here
          exact same path outside
        · rfl

/-! ### Sorted keys -/

theorem perm_orderMembers (members : Members φ) : (orderMembers members).Perm members :=
  List.mergeSort_perm _ _

theorem orderMembers_of_sorted {members : Members φ}
    (sorted : (members.map Prod.fst).Pairwise (· ≤ ·)) : orderMembers members = members := by
  apply List.mergeSort_of_pairwise
  rw [List.pairwise_map] at sorted
  exact sorted.imp fun ordered => decide_eq_true ordered

theorem shape_sortKeys (document : Document φ) : (sortKeys document).shape = document.shape := by
  cases document <;> rfl

theorem part_sortKeys {document : Document φ} (keyed : document.Keyed) (step : Step) :
    (sortKeys document).part step = (document.part step).map sortKeys := by
  cases document with
  | list items =>
      cases step with
      | key name => rfl
      | index position => rw [sortKeys, part, part, sortItems_eq_map, List.getElem?_map]
  | object members =>
      cases step with
      | key name =>
          have nodup : ((sortMembers members).map Prod.fst).Nodup := by
            rw [sortMembers_eq_map, List.map_map]
            exact (keyed_object_iff.mp keyed).1
          rw [sortKeys, part, part, ← lookup_perm nodup (perm_orderMembers _).symm,
            sortMembers_eq_map, lookup_map]
      | index position => rfl
  | null => cases step <;> rfl
  | bool value => cases step <;> rfl
  | int value => cases step <;> rfl
  | float value => cases step <;> rfl
  | str text => cases step <;> rfl

theorem Keyed.part {document inner : Document φ} {step : Step} (keyed : document.Keyed)
    (isPart : document.part step = some inner) : inner.Keyed := by
  cases document with
  | list items =>
      cases step with
      | key name => cases isPart
      | index position => exact keyed_list_iff.mp keyed inner (List.mem_of_getElem? isPart)
  | object members =>
      cases step with
      | key name =>
          have parts := keyed_object_iff.mp keyed
          exact parts.2 (name, inner) ((lookup_eq_some_iff_mem parts.1).mp isPart)
      | index position => cases isPart
  | _ => cases step <;> cases isPart

/-- Sorting the keys does not change what stands at a path. -/
theorem shapeAt_sortKeys {document : Document φ} (keyed : document.Keyed) (path : List Step) :
    (sortKeys document).shapeAt path = document.shapeAt path := by
  induction path generalizing document with
  | nil => rw [shapeAt, shapeAt, shape_sortKeys]
  | cons step path ih =>
      rw [shapeAt, shapeAt, part_sortKeys keyed]
      rcases isPart : document.part step with _ | inner
      · rfl
      · exact ih (keyed.part isPart)

/-! ### Hooks -/

/-- A hook that leaves the pairs of a dictionary alone. -/
def Fixes (hook : Hook φ) : Prop :=
  ∀ pairs : Members φ, (pairs.map Prod.fst).Nodup → hook pairs = .ok pairs

theorem rebuildItems_eq_ok_iff {items results : List (Document φ)} :
    rebuildItems hook items = .ok results ↔
      List.Forall₂ (fun item result => rebuild hook item = .ok result) items results := by
  induction items generalizing results with
  | nil =>
      rw [rebuildItems, Except.ok.injEq, List.forall₂_nil_left_iff]
      exact eq_comm
  | cons item items ih =>
      simp only [rebuildItems, Checks.bind_eq_ok_iff, ih, pure, Except.pure, Except.ok.injEq,
        List.forall₂_cons_left_iff]
      constructor
      · rintro ⟨first, isFirst, others, isOthers, rfl⟩
        exact ⟨first, others, isFirst, isOthers, rfl⟩
      · rintro ⟨first, others, isFirst, isOthers, rfl⟩
        exact ⟨first, isFirst, others, isOthers, rfl⟩

theorem rebuildMembers_eq_ok_iff {members results : Members φ} :
    rebuildMembers hook members = .ok results ↔
      List.Forall₂ (fun member result => member.1 = result.1 ∧
        rebuild hook member.2 = .ok result.2) members results := by
  induction members generalizing results with
  | nil =>
      rw [rebuildMembers, Except.ok.injEq, List.forall₂_nil_left_iff]
      exact eq_comm
  | cons member members ih =>
      rcases member with ⟨key, value⟩
      simp only [rebuildMembers, Checks.bind_eq_ok_iff, ih, pure, Except.pure, Except.ok.injEq,
        List.forall₂_cons_left_iff]
      constructor
      · rintro ⟨first, isFirst, others, isOthers, rfl⟩
        exact ⟨(key, first), others, ⟨rfl, isFirst⟩, isOthers, rfl⟩
      · rintro ⟨⟨_, first⟩, others, ⟨rfl, isFirst⟩, isOthers, rfl⟩
        exact ⟨first, isFirst, others, isOthers, rfl⟩

theorem forall₂_self {α : Type} {Related : α → α → Prop} {items : List α}
    (each : ∀ item ∈ items, Related item item) : List.Forall₂ Related items items := by
  induction items with
  | nil => exact .nil
  | cons item items ih =>
      exact .cons (each item List.mem_cons_self)
        (ih fun other mem => each other (List.mem_cons_of_mem _ mem))

theorem forall₂_of_mem {α : Type} {Related : α → α → Prop} {items : List α}
    (each : List.Forall₂ Related items items) {item : α} (mem : item ∈ items) :
    Related item item := by
  rcases List.mem_iff_getElem.mp mem with ⟨i, bound, rfl⟩
  exact List.Forall₂.get each bound bound

theorem forall₂_eq_self {α : Type} {Related : α → α → Prop} {items results : List α}
    (each : List.Forall₂ Related items results)
    (same : ∀ item ∈ items, ∀ result, Related item result → result = item) : results = items := by
  induction each with
  | nil => rfl
  | cons first _ ih =>
      rw [same _ List.mem_cons_self _ first,
        ih fun item mem => same item (List.mem_cons_of_mem _ mem)]

/-- The hook changes nothing in a document made of dictionaries. -/
theorem rebuild_of_keyed (fixes : Fixes hook) {document : Document φ} (keyed : document.Keyed) :
    rebuild hook document = .ok document := by
  induction document with
  | list items ih =>
      have parts : rebuildItems hook items = .ok items :=
        rebuildItems_eq_ok_iff.mpr
          (forall₂_self fun item mem => ih item mem (keyed_list_iff.mp keyed item mem))
      rw [rebuild, parts]
      rfl
  | object members ih =>
      rcases keyed_object_iff.mp keyed with ⟨nodup, inner⟩
      have parts : rebuildMembers hook members = .ok members :=
        rebuildMembers_eq_ok_iff.mpr
          (forall₂_self fun member mem => ⟨rfl, ih member mem (inner member mem)⟩)
      rw [rebuild, parts, Checks.ok_bind, fixes members nodup]
      rfl
  | _ => rfl

/-- A hook that accepts dictionaries only accepts only documents made of dictionaries. -/
theorem rebuild_eq_ok_iff
    (strict : ∀ pairs result : Members φ, hook pairs = .ok result ↔
      (pairs.map Prod.fst).Nodup ∧ result = pairs) {document result : Document φ} :
    rebuild hook document = .ok result ↔ document.Keyed ∧ result = document := by
  have fixes : Fixes hook := fun pairs nodup => (strict pairs pairs).mpr ⟨nodup, rfl⟩
  constructor
  · intro rebuilt
    induction document generalizing result with
    | list items ih =>
        rw [rebuild] at rebuilt
        rcases parts : rebuildItems hook items with error | results
        · rw [parts] at rebuilt
          cases rebuilt
        · rw [parts] at rebuilt
          cases rebuilt
          have each := rebuildItems_eq_ok_iff.mp parts
          have same := forall₂_eq_self each fun item mem other accepted => (ih item mem accepted).2
          refine ⟨keyed_list_iff.mpr ?_, by rw [same]⟩
          intro item mem
          rw [same] at each
          exact (ih item mem (forall₂_of_mem each mem)).1
    | object members ih =>
        rw [rebuild] at rebuilt
        rcases Checks.bind_eq_ok_iff.mp rebuilt with ⟨inner, parts, hooked⟩
        have each := rebuildMembers_eq_ok_iff.mp parts
        have same := forall₂_eq_self each fun member mem other accepted =>
          Prod.ext accepted.1.symm (ih member mem accepted.2).2
        subst same
        rcases accepted : hook inner with error | kept
        · rw [accepted] at hooked
          cases hooked
        · rw [accepted] at hooked
          cases hooked
          rcases (strict _ _).mp accepted with ⟨nodup, rfl⟩
          refine ⟨keyed_object_iff.mpr ⟨nodup, ?_⟩, rfl⟩
          intro member mem
          exact (ih member mem (forall₂_of_mem each mem).2).1
    | null =>
        cases rebuilt
        exact ⟨trivial, rfl⟩
    | bool value =>
        cases rebuilt
        exact ⟨trivial, rfl⟩
    | int value =>
        cases rebuilt
        exact ⟨trivial, rfl⟩
    | float value =>
        cases rebuilt
        exact ⟨trivial, rfl⟩
    | str text =>
        cases rebuilt
        exact ⟨trivial, rfl⟩
  · rintro ⟨keyed, rfl⟩
    exact rebuild_of_keyed fixes keyed

theorem fixes_dictOf : Fixes (dictOf : Hook φ) := by
  have grows : ∀ (pairs members : Members φ), ((members ++ pairs).map Prod.fst).Nodup →
      pairs.foldl (fun members pair => setMember members pair.1 pair.2) members =
        members ++ pairs := by
    intro pairs
    induction pairs with
    | nil =>
        intro members _
        exact (List.append_nil members).symm
    | cons pair pairs ih =>
        intro members nodup
        have fresh : pair.1 ∉ members.map Prod.fst := by
          intro mem
          rw [List.map_append, List.map_cons, List.nodup_append] at nodup
          exact nodup.2.2 _ mem _ List.mem_cons_self rfl
        have next : setMember members pair.1 pair.2 = members ++ [pair] := if_neg fresh
        rw [List.foldl_cons, next, ih _ (by simpa using nodup), List.append_assoc,
          List.singleton_append]
  intro pairs nodup
  rw [dictOf, grows pairs [] nodup, List.nil_append]

section Texts

variable [FloatText φ] {style : Style} {document other : Document φ} {text : Str}

/-- `json.loads` undoes `json.dumps`, also when blanks follow. -/
theorem loads_dumps {levels : ℕ} (keyed : document.Keyed)
    (written : dumps style document = some text) (shallow : document.depth ≤ levels)
    {blanks : Str} (all : ∀ c ∈ blanks, isBlank c = true) :
    loads levels (text ++ blanks) = .ok document := by
  rw [loads, loadsWith, parse_dumps written shallow all, Checks.ok_bind]
  exact rebuild_of_keyed fixes_dictOf keyed

theorem dumps_injective (written : dumps style document = some text)
    (same : dumps style other = some text) : document = other := by
  have first := parse_dumps written (le_max_left _ other.depth) (List.forall_mem_nil _)
  have second := parse_dumps same (le_max_right document.depth _) (List.forall_mem_nil _)
  rw [first] at second
  exact Except.ok.inj second

/-- Documents with one sorted text agree at every path. -/
theorem shapeAt_eq_of_sorted (keyed : document.Keyed) (otherKeyed : other.Keyed)
    (written : dumps style (sortKeys document) = some text)
    (same : dumps style (sortKeys other) = some text) (path : List Step) :
    document.shapeAt path = other.shapeAt path := by
  rw [← shapeAt_sortKeys keyed, dumps_injective written same, shapeAt_sortKeys otherKeyed]

end Texts

end Document

end Python
