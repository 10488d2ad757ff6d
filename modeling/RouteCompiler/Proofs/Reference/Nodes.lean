/-
**The maps inside a tree.**

What is said about references is said about the maps of a tree, at whatever depth they stand: a
reference is one of these maps, and so is every object of the document.

* `Tree.Atomic`, `Tree.nested_induction`: trees without parts, and induction over the others;
* `Tree.maps`: all maps of a tree, the outer ones before those inside them;
* `mem_maps_list`, `mem_maps_map`: where the maps of a container stand;
* `maps_subset_of_mem_maps`: what is inside a map of a tree is inside the tree;
* `reference?_eq_some_iff`: which maps are references;
* `mem_occurrences_iff`: the references of a tree are those of its maps.
-/

import RouteCompiler.Reference.Occurrence

namespace RouteCompiler

namespace Tree

/-! ### Trees without parts -/

/-- A tree without parts that belong to the structure of a document. -/
inductive Atomic : Tree → Prop
  | scalar (value : Scalar) : Atomic (.scalar value)
  | pair (key value : Tree) : Atomic (.pair key value)
  | set (members : List Scalar) : Atomic (.set members)

/-- Induction over a tree in which all trees without parts are one case. -/
@[elab_as_elim]
theorem nested_induction {motive : Tree → Prop} (atomic : ∀ tree, Atomic tree → motive tree)
    (list : ∀ items, (∀ item ∈ items, motive item) → motive (.list items))
    (map : ∀ entries, (∀ entry ∈ entries, motive entry.2) → motive (.map entries)) (tree : Tree) :
    motive tree := by
  induction tree using Tree.induct with
  | scalar value => exact atomic _ (.scalar value)
  | pair key value => exact atomic _ (.pair key value)
  | set members => exact atomic _ (.set members)
  | list items ih => exact list items ih
  | map entries ih => exact map entries ih

/-! ### Maps -/

mutual

/-- The maps of a tree at every depth. -/
def maps : Tree → List Entries
  | .scalar _ => []
  | .pair .. => []
  | .set _ => []
  | .list items => mapsItems items
  | .map entries => entries :: mapsEntries entries

/-- The maps of the items of a list. -/
def mapsItems : List Tree → List Entries
  | [] => []
  | item :: rest => item.maps ++ mapsItems rest

/-- The maps inside the values of a map. -/
def mapsEntries : List (Scalar × Tree) → List Entries
  | [] => []
  | (_, value) :: rest => value.maps ++ mapsEntries rest

end

theorem mem_mapsItems {items : List Tree} {node : Entries} :
    node ∈ mapsItems items ↔ ∃ item ∈ items, node ∈ item.maps := by
  induction items with
  | nil => simp [mapsItems]
  | cons item rest ih => simp [mapsItems, ih]

theorem mem_mapsEntries {entries : Entries} {node : Entries} :
    node ∈ mapsEntries entries ↔ ∃ entry ∈ entries, node ∈ entry.2.maps := by
  induction entries with
  | nil => simp [mapsEntries]
  | cons entry rest ih => simp [mapsEntries, ih]

theorem Atomic.maps_eq {tree : Tree} (atomic : Atomic tree) : tree.maps = [] := by
  cases atomic <;> rw [maps]

/-- The maps of a list are those of its items. -/
theorem mem_maps_list {items : List Tree} {node : Entries} :
    node ∈ (Tree.list items).maps ↔ ∃ item ∈ items, node ∈ item.maps := by
  rw [maps, mem_mapsItems]

/-- The maps of a map are itself and those of its values. -/
theorem mem_maps_map {entries node : Entries} :
    node ∈ (Tree.map entries).maps ↔ node = entries ∨ ∃ entry ∈ entries, node ∈ entry.2.maps := by
  rw [maps, List.mem_cons, mem_mapsEntries]

theorem self_mem_maps (entries : Entries) : entries ∈ (Tree.map entries).maps :=
  mem_maps_map.mpr (Or.inl rfl)

/-- The maps of a value are maps of the map that it stands in. -/
theorem maps_subset_of_mem {entries : Entries} {key : Scalar} {value : Tree}
    (member : (key, value) ∈ entries) : value.maps ⊆ (Tree.map entries).maps :=
  fun _ inside => mem_maps_map.mpr (Or.inr ⟨(key, value), member, inside⟩)

/-- The maps of an item are maps of the list that it stands in. -/
theorem maps_subset_of_mem_items {items : List Tree} {item : Tree} (member : item ∈ items) :
    item.maps ⊆ (Tree.list items).maps :=
  fun _ inside => mem_maps_list.mpr ⟨item, member, inside⟩

/-- The maps inside a map of a tree are maps of the tree. -/
theorem maps_subset_of_mem_maps {tree : Tree} {node : Entries} (member : node ∈ tree.maps) :
    (Tree.map node).maps ⊆ tree.maps := by
  induction tree using nested_induction with
  | atomic tree atomic =>
    rw [atomic.maps_eq] at member
    cases member
  | list items ih =>
    obtain ⟨item, inItems, inItem⟩ := mem_maps_list.mp member
    exact List.Subset.trans (ih item inItems inItem) (maps_subset_of_mem_items inItems)
  | map entries ih =>
    rcases mem_maps_map.mp member with rfl | ⟨entry, inEntries, inEntry⟩
    · exact List.Subset.refl _
    · exact List.Subset.trans (ih entry inEntries inEntry) (maps_subset_of_mem inEntries)

end Tree

/-! ### References -/

theorem text?_eq_some_iff {tree : Tree} {text : String} : tree.text? = some text ↔ tree = .str text := by
  constructor
  · intro isText
    unfold Tree.text? at isText
    split at isText
    · cases isText
      rfl
    · cases isText
  · rintro rfl
    rfl

/-- A map is a reference when its `$ref` is a text. -/
theorem reference?_eq_some_iff {entries : Entries} {pointer : Pointer} :
    reference? entries = some pointer ↔ OrderedMap.get? entries refKey = some (.str pointer) := by
  rw [reference?, Option.bind_eq_some_iff]
  constructor
  · rintro ⟨value, found, isText⟩
    rw [found, text?_eq_some_iff.mp isText]
  · intro found
    exact ⟨_, found, rfl⟩

/-- A reference without siblings is its `$ref` alone. -/
theorem eq_singleton_of_reference {entries : Entries} {pointer : Pointer}
    (isReference : reference? entries = some pointer) (alone : ¬ 1 < entries.length) :
    entries = [(refKey, .str pointer)] := by
  have member := OrderedMap.mem_of_get?_eq_some (reference?_eq_some_iff.mp isReference)
  match entries, alone, member with
  | [entry], _, member => rw [List.mem_singleton.mp member]
  | _ :: _ :: _, alone, _ => exact absurd (by simp) alone

theorem mem_occurrencesItems {items : List Tree} {pointer : Pointer} :
    pointer ∈ occurrencesItems items ↔ ∃ item ∈ items, pointer ∈ occurrences item := by
  induction items with
  | nil => simp [occurrencesItems]
  | cons item rest ih => simp [occurrencesItems, ih]

theorem mem_occurrencesEntries {entries : Entries} {pointer : Pointer} :
    pointer ∈ occurrencesEntries entries ↔ ∃ entry ∈ entries, pointer ∈ occurrences entry.2 := by
  induction entries with
  | nil => simp [occurrencesEntries]
  | cons entry rest ih => simp [occurrencesEntries, ih]

/-- The references of a list are those of its items. -/
theorem mem_occurrences_list {items : List Tree} {pointer : Pointer} :
    pointer ∈ occurrences (.list items) ↔ ∃ item ∈ items, pointer ∈ occurrences item := by
  rw [occurrences, mem_occurrencesItems]

/-- The references of a map are the one that it is and those of its values. -/
theorem mem_occurrences_map {entries : Entries} {pointer : Pointer} :
    pointer ∈ occurrences (.map entries) ↔
      reference? entries = some pointer ∨ ∃ entry ∈ entries, pointer ∈ occurrences entry.2 := by
  rw [occurrences, List.mem_append, Option.mem_toList, mem_occurrencesEntries]

theorem Tree.Atomic.occurrences_eq {tree : Tree} (atomic : tree.Atomic) : occurrences tree = [] := by
  cases atomic <;> rw [occurrences]

/-- A tree has a reference exactly when one of its maps is it. -/
theorem mem_occurrences_iff (tree : Tree) (pointer : Pointer) :
    pointer ∈ occurrences tree ↔ ∃ node ∈ tree.maps, reference? node = some pointer := by
  induction tree using Tree.nested_induction with
  | atomic tree atomic => simp [atomic.occurrences_eq, atomic.maps_eq]
  | list items ih =>
    rw [mem_occurrences_list]
    constructor
    · rintro ⟨item, member, found⟩
      obtain ⟨node, inside, isReference⟩ := (ih item member).mp found
      exact ⟨node, Tree.maps_subset_of_mem_items member inside, isReference⟩
    · rintro ⟨node, inside, isReference⟩
      obtain ⟨item, member, inItem⟩ := Tree.mem_maps_list.mp inside
      exact ⟨item, member, (ih item member).mpr ⟨node, inItem, isReference⟩⟩
  | map entries ih =>
    rw [mem_occurrences_map]
    constructor
    · rintro (isReference | ⟨entry, member, found⟩)
      · exact ⟨entries, Tree.self_mem_maps entries, isReference⟩
      · obtain ⟨node, inside, isReference⟩ := (ih entry member).mp found
        exact ⟨node, Tree.maps_subset_of_mem member inside, isReference⟩
    · rintro ⟨node, inside, isReference⟩
      rcases Tree.mem_maps_map.mp inside with rfl | ⟨entry, member, inEntry⟩
      · exact Or.inl isReference
      · exact Or.inr ⟨entry, member, (ih entry member).mpr ⟨node, inEntry, isReference⟩⟩

/-- A tree inside another one has no reference that the other lacks. -/
theorem occurrences_subset {inner outer : Tree} (inside : inner.maps ⊆ outer.maps) :
    occurrences inner ⊆ occurrences outer := by
  intro pointer found
  obtain ⟨node, member, isReference⟩ := (mem_occurrences_iff inner pointer).mp found
  exact (mem_occurrences_iff outer pointer).mpr ⟨node, inside member, isReference⟩

end RouteCompiler
