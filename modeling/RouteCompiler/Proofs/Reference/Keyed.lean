/-
**Keys and values that substitution keeps.**

A splice sets keys and values of its two maps, though not always a value under its own spelling of the key. So
when all keys of a document are of one sort, texts for instance, all keys of the resolved document are of that
sort. No reader makes an entry the value of a key, and neither does substitution.

* `Tree.KeyedBy`: the keys of a tree are of one sort, and entries stand in lists alone;
* `Entries.each_splice`: what all keys and all values of two maps have in common is kept by a splice;
* `keyedBy_of_expand`, `keyedBy_of_direct`: trees with their references replaced;
* `keyedBy_substituted`: documents.
-/

import RouteCompiler.Proofs.Reference.Orphans

namespace RouteCompiler

/-! ### Keys of one sort -/

/-- Whether a tree is an entry by itself. -/
def Tree.isPair : Tree → Bool
  | .pair .. => true
  | _ => false

/-- Whether a scalar is a text. -/
def Scalar.isText : Scalar → Bool
  | .str _ => true
  | _ => false

theorem Scalar.isText_iff {value : Scalar} : value.isText = true ↔ ∃ text, value = .str text := by
  cases value <;> simp [isText]

/-- All keys of a tree are of one sort, and no value of a key is an entry by itself. -/
def Tree.KeyedBy (sort : Scalar → Prop) (tree : Tree) : Prop :=
  ∀ node ∈ tree.maps, ∀ entry ∈ node, sort entry.1 ∧ entry.2.isPair = false

/-- Entries stand in lists alone, as all readers have it. -/
abbrev Tree.PairsListed (tree : Tree) : Prop :=
  tree.KeyedBy fun _ => True

/-- All keys are texts, as in every document that is JSON. -/
abbrev Tree.TextKeyed (tree : Tree) : Prop :=
  tree.KeyedBy fun key => key.isText = true

variable {sort : Scalar → Prop}

instance [DecidablePred sort] (tree : Tree) : Decidable (tree.KeyedBy sort) :=
  inferInstanceAs (Decidable (∀ node ∈ tree.maps, ∀ entry ∈ node, sort entry.1 ∧ entry.2.isPair = false))

/-- A tree that may be the value of a key: it is no entry by itself, and its own keys are of the sort. -/
structure Tree.ValueBy (sort : Scalar → Prop) (tree : Tree) : Prop where
  single : tree.isPair = false
  keyed : tree.KeyedBy sort

theorem Tree.KeyedBy.subset {inner outer : Tree} (keyed : outer.KeyedBy sort) (inside : inner.maps ⊆ outer.maps) :
    inner.KeyedBy sort :=
  fun node member => keyed node (inside member)

theorem Tree.KeyedBy.mono {other : Scalar → Prop} {tree : Tree} (keyed : tree.KeyedBy sort)
    (implied : ∀ key, sort key → other key) : tree.KeyedBy other :=
  fun node member entry inNode => ⟨implied _ (keyed node member entry inNode).1, (keyed node member entry inNode).2⟩

theorem Tree.keyedBy_map_iff {entries : Entries} :
    (Tree.map entries).KeyedBy sort ↔
      ∀ entry ∈ entries, sort entry.1 ∧ entry.2.ValueBy sort := by
  constructor
  · intro keyed entry member
    obtain ⟨ofSort, single⟩ := keyed entries (self_mem_maps entries) entry member
    exact ⟨ofSort, single, keyed.subset (maps_subset_of_mem member)⟩
  · intro each node inside
    rcases mem_maps_map.mp inside with rfl | ⟨entry, member, inEntry⟩
    · exact fun entry member => ⟨(each entry member).1, (each entry member).2.single⟩
    · exact (each entry member).2.keyed node inEntry

theorem Tree.keyedBy_list_iff {items : List Tree} :
    (Tree.list items).KeyedBy sort ↔ ∀ item ∈ items, item.KeyedBy sort := by
  constructor
  · exact fun keyed item member => keyed.subset (maps_subset_of_mem_items member)
  · intro each node inside
    obtain ⟨item, member, inItem⟩ := mem_maps_list.mp inside
    exact each item member node inItem

/-- A tree without parts has no keys. -/
theorem Tree.Atomic.keyedBy {tree : Tree} (atomic : tree.Atomic) : tree.KeyedBy sort := by
  intro node inside
  rw [atomic.maps_eq] at inside
  cases inside

/-! ### Splices -/

namespace Entries

variable {good : Tree → Prop} {entries : Entries}

theorem each_insert {key : Scalar} {value : Tree} (each : ∀ entry ∈ entries, sort entry.1 ∧ good entry.2)
    (ofSort : sort key) (isGood : good value) :
    ∀ entry ∈ Entries.insert entries key value, sort entry.1 ∧ good entry.2 := by
  intro entry member
  constructor
  · rcases mem_keys_insert (List.mem_map_of_mem member) with same | old
    · rw [same]
      exact ofSort
    · obtain ⟨other, inEntries, same⟩ := List.mem_map.mp old
      rw [← same]
      exact (each other inEntries).1
  · rcases OrderedMap.mem_insert_cases member with rfl | old
    · exact isGood
    · exact (each entry old).2

theorem each_merge {additions : Entries} (each : ∀ entry ∈ entries, sort entry.1 ∧ good entry.2)
    (eachNew : ∀ entry ∈ additions, sort entry.1 ∧ good entry.2) :
    ∀ entry ∈ Entries.merge entries additions, sort entry.1 ∧ good entry.2 := by
  induction additions generalizing entries with
  | nil => exact each
  | cons first rest ih =>
    obtain ⟨atFirst, atRest⟩ := List.forall_mem_cons.mp eachNew
    exact ih (each_insert each atFirst.1 atFirst.2) atRest

/-- **What all keys and all values of two maps have in common** is kept by their splice. -/
theorem each_splice {content : Entries} (eachContent : ∀ entry ∈ content, sort entry.1 ∧ good entry.2)
    (each : ∀ entry ∈ entries, sort entry.1 ∧ good entry.2) :
    ∀ entry ∈ splice content entries, sort entry.1 ∧ good entry.2 := by
  have step (start : Entries) (ofStart : ∀ entry ∈ start, sort entry.1 ∧ good entry.2) (rest : Entries)
      (ofRest : ∀ entry ∈ rest, sort entry.1 ∧ good entry.2) :
      ∀ entry ∈ rest.foldl (fun spliced entry =>
        if entry.1 = refKey then Entries.merge spliced content
        else Entries.insert spliced entry.1 entry.2) start, sort entry.1 ∧ good entry.2 := by
    induction rest generalizing start with
    | nil => exact ofStart
    | cons first rest ih =>
      obtain ⟨atFirst, atRest⟩ := List.forall_mem_cons.mp ofRest
      rw [List.foldl_cons]
      refine ih _ ?_ atRest
      split
      · exact each_merge ofStart eachContent
      · exact each_insert ofStart atFirst.1 atFirst.2
  exact step [] nofun entries each

end Entries

/-! ### Trees -/

/-- **Replacing references keeps the sort of the keys.** A value that is no entry becomes none. -/
theorem keyedBy_of_expand {meaning : Meaning}
    (contents : ∀ pointer content, meaning pointer = some (.ok content) → content.ValueBy sort)
    {tree result : Tree} (keyed : tree.KeyedBy sort) (succeeded : expand meaning tree = .ok result) :
    (tree.isPair = false → result.isPair = false) ∧ result.KeyedBy sort := by
  induction tree using Tree.nested_induction generalizing result with
  | atomic tree atomic =>
    cases atomic.expand_eq.symm.trans succeeded
    exact ⟨id, keyed⟩
  | list items ih =>
    obtain ⟨results, atItems, rfl⟩ := expand_list_ok_iff.mp succeeded
    refine ⟨fun _ => rfl, Tree.keyedBy_list_iff.mpr fun result inResults => ?_⟩
    obtain ⟨item, inItems, atItem⟩ := exists_left_of_mem (expandItems_ok_iff.mp atItems) inResults
    exact (ih item inItems (Tree.keyedBy_list_iff.mp keyed item inItems) atItem).2
  | map entries ih =>
    have rebuilt {results : Entries} (values : expandEntries meaning entries = .ok results) :
        ∀ entry ∈ results, sort entry.1 ∧ entry.2.ValueBy sort := by
      rintro ⟨key, partner⟩ member
      obtain ⟨value, inEntries, atValue⟩ := (expandEntries_ok_iff.mp values).mem_left member
      obtain ⟨ofSort, single, inside⟩ := Tree.keyedBy_map_iff.mp keyed _ inEntries
      obtain ⟨staysSingle, staysKeyed⟩ := ih (key, value) inEntries inside atValue
      exact ⟨ofSort, staysSingle single, staysKeyed⟩
    cases expand_map_ok_iff.mp succeeded with
    | kept unknown values => exact ⟨fun _ => rfl, Tree.keyedBy_map_iff.mpr (rebuilt values)⟩
    | spliced isReference found values =>
      have ofContent := Tree.keyedBy_map_iff.mp (contents _ _ found).keyed
      exact ⟨fun _ => rfl, Tree.keyedBy_map_iff.mpr (Entries.each_splice ofContent (rebuilt values))⟩
    | replaced isReference found noMap alone => exact ⟨fun _ => (contents _ _ found).single, (contents _ _ found).keyed⟩

/-! ### Documents -/

variable {registry : Registry} {document : Tree}

/-- What a pointer stands for is a value of a key in the document, with its references replaced. -/
theorem keyedBy_of_direct (registered : registryOf document = .ok registry) (keyed : document.KeyedBy sort)
    {chain : List Pointer} {pointer : Pointer} {content : Tree}
    (known : registry.direct? chain pointer = some (.ok content)) : content.ValueBy sort := by
  induction chain using registry.chain_induction generalizing pointer content with
  | step chain ih =>
    obtain ⟨body, isBody, fresh, succeeded⟩ := Registry.direct?_ok_iff.mp known
    obtain ⟨node, inDocument, key, inNode⟩ := exists_node_of_body? registered isBody
    obtain ⟨staysSingle, staysKeyed⟩ := keyedBy_of_expand
      (fun next inner => ih pointer (Registry.mem_pointers_of_body? isBody) fresh)
      (keyed.subset (maps_body_subset registered isBody)) succeeded
    exact ⟨staysSingle (keyed node inDocument _ inNode).2, staysKeyed⟩

theorem keyedBy_completed (ofComponents : sort "components") (keyed : document.KeyedBy sort) :
    (completed document).KeyedBy sort := by
  cases document with
  | map entries =>
    rw [completed, withComponents]
    split
    · refine Tree.keyedBy_map_iff.mpr fun entry member => ?_
      rcases OrderedMap.mem_insert_cases member with rfl | old
      · exact ⟨ofComponents, rfl, Tree.keyedBy_map_iff.mpr (List.forall_mem_nil _)⟩
      · exact Tree.keyedBy_map_iff.mp keyed entry old
    · exact keyed
  | _ => exact keyed

/-- **A resolved document has keys of the sort that the document has.** -/
theorem keyedBy_substituted {resolved : Tree} (ofComponents : sort "components") (keyed : document.KeyedBy sort)
    (succeeded : substituted document = .ok resolved) : resolved.KeyedBy sort := by
  obtain ⟨registry, registered, inside⟩ := bind_ok_iff.mp succeeded
  exact (keyedBy_of_expand (fun _ _ => keyedBy_of_direct registered keyed)
    (keyedBy_completed ofComponents keyed) inside).2

end RouteCompiler
