/-
**The references of a tree, in order.**

The way to a part of a tree is told by numbers, one for each container that is passed: the place of the item in a
list, or of the value in a map. The order of the document is the lexicographic order of these ways, in which a
container comes before what is inside it and its parts come one after another. References are listed in this order,
each at the first place where it stands. A `$ref` whose value is no text is the key of some data, and what is inside
this data is listed like everything else.

* `Tree.parts`, `Tree.part?`, `RefersAt`: ways into a tree, and the references there;
* `Locates`: where references stand, in the order of the ways;
* `exists_sites`: all references of a tree and no others, repeated ones too;
* `pairwise_firstOccurrences`: the order in which each of them occurs first;
* `references_in_order`: the references that are listed.
-/

import Mathlib.Data.List.Induction
import RouteCompiler.Proofs.Reference.Nodes

namespace RouteCompiler

/-! ### Ways -/

namespace Tree

/-- The parts of a container in order: the items of a list, or the values of a map. -/
def parts : Tree → List Tree
  | .list items => items
  | .map entries => OrderedMap.values entries
  | _ => []

/-- The part of a tree at the end of a way. -/
def part? (tree : Tree) : List Nat → Option Tree
  | [] => some tree
  | place :: rest => tree.parts[place]?.bind fun inner => inner.part? rest

end Tree

/-- At the end of a way stands an object that has the pointer for its `$ref`. -/
def RefersAt (tree : Tree) (way : List Nat) (pointer : Pointer) : Prop :=
  ∃ entries, tree.part? way = some (.map entries) ∧ OrderedMap.get? entries refKey = some (.str pointer)

/-- A way into one of several trees, the first number being the place of the tree. -/
def RefersWithin (items : List Tree) (way : List Nat) (pointer : Pointer) : Prop :=
  ∃ place rest inner, way = place :: rest ∧ items[place]? = some inner ∧ RefersAt inner rest pointer

/-- A reference is the tree itself or stands within its parts. -/
theorem refersAt_iff (tree : Tree) (way : List Nat) (pointer : Pointer) :
    RefersAt tree way pointer ↔
      (way = [] ∧ ∃ entries, tree = .map entries ∧ reference? entries = some pointer) ∨
        RefersWithin tree.parts way pointer := by
  cases way with
  | nil =>
    simp only [RefersAt, Tree.part?, Option.some.injEq, reference?_eq_some_iff, RefersWithin]
    simp
  | cons place rest =>
    simp only [RefersAt, Tree.part?, Option.bind_eq_some_iff, RefersWithin]
    constructor
    · rintro ⟨entries, ⟨inner, stands, further⟩, isReference⟩
      exact Or.inr ⟨place, rest, inner, rfl, stands, entries, further, isReference⟩
    · rintro (⟨same, _⟩ | ⟨_, _, inner, same, stands, entries, further, isReference⟩)
      · cases same
      · cases same
        exact ⟨entries, ⟨inner, stands, further⟩, isReference⟩

theorem refersWithin_concat_iff (items : List Tree) (item : Tree) (way : List Nat) (pointer : Pointer) :
    RefersWithin (items ++ [item]) way pointer ↔
      RefersWithin items way pointer ∨ ∃ rest, way = items.length :: rest ∧ RefersAt item rest pointer := by
  constructor
  · rintro ⟨place, rest, inner, rfl, stands, further⟩
    by_cases before : place < items.length
    · rw [List.getElem?_append_left before] at stands
      exact Or.inl ⟨place, rest, inner, rfl, stands, further⟩
    · rw [List.getElem?_append_right (Nat.le_of_not_lt before)] at stands
      have last : place = items.length := by
        have within := (List.getElem?_eq_some_iff.mp stands).1
        rw [List.length_singleton] at within
        omega
      subst last
      rw [Nat.sub_self, List.getElem?_cons_zero, Option.some.injEq] at stands
      exact Or.inr ⟨rest, rfl, stands ▸ further⟩
  · rintro (⟨place, rest, inner, rfl, stands, further⟩ | ⟨rest, rfl, further⟩)
    · have before := (List.getElem?_eq_some_iff.mp stands).1
      exact ⟨place, rest, inner, rfl, by rw [List.getElem?_append_left before, stands], further⟩
    · exact ⟨items.length, rest, item, rfl, List.getElem?_concat_length, further⟩

/-! ### Where references stand -/

/-- Pointers with the ways to them: all that are referred to, in ascending order of the ways. -/
structure Locates (refers : List Nat → Pointer → Prop) (pointers : List Pointer)
    (sites : List (List Nat × Pointer)) : Prop where
  pointers : sites.map (·.2) = pointers
  ascending : sites.Pairwise fun first second => first.1 < second.1
  mem_iff : ∀ way pointer, (way, pointer) ∈ sites ↔ refers way pointer

theorem occurrencesItems_eq (items : List Tree) : occurrencesItems items = items.flatMap occurrences := by
  induction items with
  | nil => rfl
  | cons item rest ih => rw [occurrencesItems, ih, List.flatMap_cons]

theorem occurrencesEntries_eq (entries : Entries) :
    occurrencesEntries entries = occurrencesItems (OrderedMap.values entries) := by
  induction entries with
  | nil => rfl
  | cons entry rest ih =>
    rw [occurrencesEntries, ih]
    rfl

/-- The own reference of an object comes before those of its values. -/
theorem occurrences_map_eq (entries : Entries) :
    occurrences (.map entries) = (reference? entries).toList ++ occurrences (.list (OrderedMap.values entries)) := by
  show (reference? entries).toList ++ occurrencesEntries entries =
    (reference? entries).toList ++ occurrencesItems (OrderedMap.values entries)
  rw [occurrencesEntries_eq]

/-- The references within several trees are those of each, one tree after another. -/
theorem exists_sites_items {items : List Tree}
    (each : ∀ item ∈ items, ∃ sites, Locates (RefersAt item) (occurrences item) sites) :
    ∃ sites, Locates (RefersWithin items) (occurrencesItems items) sites := by
  induction items using List.reverseRecOn with
  | nil => exact ⟨[], rfl, .nil, by simp [RefersWithin]⟩
  | append_singleton items item ih =>
    obtain ⟨before, located⟩ := ih fun other member => each other (List.mem_append_left _ member)
    obtain ⟨inside, locatedLast⟩ := each item (List.mem_append_right _ List.mem_cons_self)
    refine ⟨before ++ inside.map fun site => (items.length :: site.1, site.2), ?_, ?_, fun way pointer => ?_⟩
    · have last : (inside.map fun site => (items.length :: site.1, site.2)).map (·.2) = occurrences item := by
        rw [← locatedLast.pointers, List.map_map]
        rfl
      rw [List.map_append, located.pointers, last]
      simp [occurrencesItems_eq]
    · have within : (inside.map fun site => (items.length :: site.1, site.2)).Pairwise
          fun first second => first.1 < second.1 :=
        List.pairwise_map.mpr (locatedLast.ascending.imp fun earlier => List.cons_lt_cons_self.mpr earlier)
      refine List.pairwise_append.mpr ⟨located.ascending, within, fun first isBefore second isInside => ?_⟩
      obtain ⟨site, _, rfl⟩ := List.mem_map.mp isInside
      obtain ⟨place, rest, inner, way, stands, _⟩ := (located.mem_iff first.1 first.2).mp isBefore
      have earlier : place < items.length := (List.getElem?_eq_some_iff.mp stands).1
      rw [way]
      exact List.cons_lt_cons_iff.mpr (Or.inl earlier)
    · rw [refersWithin_concat_iff, List.mem_append, located.mem_iff]
      refine or_congr Iff.rfl ?_
      simp only [List.mem_map, Prod.mk.injEq, Prod.exists, ← locatedLast.mem_iff]
      constructor
      · rintro ⟨rest, other, member, same, rfl⟩
        exact ⟨rest, same.symm, member⟩
      · rintro ⟨rest, same, member⟩
        exact ⟨rest, pointer, member, same.symm, rfl⟩

/-- **All references of a tree, in the order of the ways to them**, by the order in which they are collected. -/
theorem exists_sites (tree : Tree) : ∃ sites, Locates (RefersAt tree) (occurrences tree) sites := by
  induction tree using Tree.nested_induction with
  | atomic tree atomic =>
    refine ⟨[], by rw [atomic.occurrences_eq, List.map_nil], .nil, fun way pointer => ?_⟩
    rw [refersAt_iff]
    cases atomic <;> simp [Tree.parts, RefersWithin]
  | list items ih =>
    obtain ⟨sites, located⟩ := exists_sites_items ih
    refine ⟨sites, by rw [located.pointers, occurrences], located.ascending, fun way pointer => ?_⟩
    simp [refersAt_iff, located.mem_iff, Tree.parts]
  | map entries ih =>
    have each : ∀ item ∈ OrderedMap.values entries, ∃ sites, Locates (RefersAt item) (occurrences item) sites := by
      intro item member
      obtain ⟨entry, inEntries, rfl⟩ := List.mem_map.mp member
      exact ih entry inEntries
    obtain ⟨sites, located⟩ := exists_sites_items each
    have split (way : List Nat) (pointer : Pointer) : RefersAt (.map entries) way pointer ↔
        (way = [] ∧ reference? entries = some pointer) ∨ (way, pointer) ∈ sites := by
      simp [refersAt_iff, located.mem_iff, Tree.parts]
    cases isReference : reference? entries with
    | none =>
      refine ⟨sites, ?_, located.ascending, fun way pointer => by simp [split, isReference]⟩
      rw [located.pointers, occurrences_map_eq, isReference, occurrences, Option.toList_none, List.nil_append]
    | some own =>
      -- the way to the object itself comes before all that go on
      have first : ∀ site ∈ sites, [] < site.1 := fun site member => by
        obtain ⟨place, rest, _, way, _⟩ := (located.mem_iff site.1 site.2).mp member
        rw [way]
        exact List.nil_lt_cons place rest
      refine ⟨([], own) :: sites, ?_, List.pairwise_cons.mpr ⟨first, located.ascending⟩, fun way pointer => ?_⟩
      · rw [List.map_cons, located.pointers, occurrences_map_eq, isReference, occurrences, Option.toList_some,
          List.singleton_append]
      · simp [split, isReference, eq_comm]

/-! ### First occurrences -/

/-- Each pointer is listed where it occurs first. Of those that have been seen before, none is listed. -/
theorem pairwise_firstOccurrences {sites : List (List Nat × Pointer)}
    (ascending : sites.Pairwise fun first second => first.1 < second.1) (seen : List Pointer) :
    (firstOccurrences seen (sites.map (·.2))).Pairwise fun first second =>
      ∃ way, (way, first) ∈ sites ∧ ∀ other, (other, second) ∈ sites → way < other := by
  induction sites generalizing seen with
  | nil => exact .nil
  | cons site rest ih =>
    obtain ⟨way, pointer⟩ := site
    obtain ⟨earlier, ascendingRest⟩ := List.pairwise_cons.mp ascending
    -- what holds among the sites that follow holds with this one, for other pointers
    have lift {seen : List Pointer} (known : pointer ∈ seen) :
        (firstOccurrences seen (rest.map (·.2))).Pairwise fun first second =>
          ∃ site, (site, first) ∈ (way, pointer) :: rest ∧
            ∀ other, (other, second) ∈ (way, pointer) :: rest → site < other := by
      refine (ih ascendingRest seen).imp_of_mem fun {first second} _ isSecond before => ?_
      obtain ⟨site, member, least⟩ := before
      have differ : second ≠ pointer := by
        rintro rfl
        exact ((mem_firstOccurrences _ _ _).mp isSecond).2 known
      refine ⟨site, List.mem_cons_of_mem _ member, fun other stands => least other ?_⟩
      exact (List.mem_cons.mp stands).resolve_left fun same => differ (Prod.mk.inj same).2
    by_cases old : pointer ∈ seen
    · rw [List.map_cons, firstOccurrences, if_pos old]
      exact lift old
    · rw [List.map_cons, firstOccurrences, if_neg old]
      refine List.pairwise_cons.mpr ⟨fun second isSecond => ?_, lift List.mem_cons_self⟩
      have differ : second ≠ pointer := by
        rintro rfl
        exact ((mem_firstOccurrences _ _ _).mp isSecond).2 List.mem_cons_self
      refine ⟨way, List.mem_cons_self, fun other stands => earlier (other, second) ?_⟩
      exact (List.mem_cons.mp stands).resolve_left fun same => differ (Prod.mk.inj same).2

/-- **The references of a tree**: the pointers that some object of it has for its `$ref`, each of them once, in the
order in which they occur first. An object whose `$ref` is no text is searched like a list of its values. -/
theorem references_in_order (tree : Tree) :
    (references tree).Nodup ∧
      (∀ pointer, pointer ∈ references tree ↔ ∃ way, RefersAt tree way pointer) ∧
      ((references tree).Pairwise fun first second =>
        ∃ way, RefersAt tree way first ∧ ∀ other, RefersAt tree other second → way < other) ∧
      ∀ entries : Entries, (∀ pointer, OrderedMap.get? entries refKey ≠ some (.str pointer)) →
        references (.map entries) = references (.list (OrderedMap.values entries)) := by
  obtain ⟨sites, located⟩ := exists_sites tree
  refine ⟨nodup_references tree, fun pointer => ?_, ?_, fun entries noText => ?_⟩
  · simp only [mem_references, ← located.mem_iff, ← located.pointers, List.mem_map, Prod.exists, exists_eq_right]
  · rw [references, ← located.pointers]
    simpa only [located.mem_iff] using pairwise_firstOccurrences located.ascending []
  · have none : reference? entries = none := Option.eq_none_iff_forall_ne_some.mpr fun pointer isReference =>
      noText pointer (reference?_eq_some_iff.mp isReference)
    rw [references, references, occurrences_map_eq, none, Option.toList_none, List.nil_append]

/-- Objects with a `$ref` that is no text, one within the other's data, and references before and inside them. -/
def nestedReferences : Entries :=
  [("before", .map [(refKey, .str "b")]),
    (refKey, .list [.map [(refKey, .str "a"), ("inside", .map [(refKey, .str "b")])]]),
    ("after", .map [(refKey, .map [("data", .map [(refKey, .str "c")])])])]

theorem references_in_order_of_nestedReferences :
    (∀ pointer, OrderedMap.get? nestedReferences refKey ≠ some (.str pointer)) ∧
      references (.map nestedReferences) = ["b", "a", "c"] ∧
      references (.map nestedReferences) = references (.list (OrderedMap.values nestedReferences)) := by
  have noText : ∀ pointer, OrderedMap.get? nestedReferences refKey ≠ some (.str pointer) := by
    intro pointer isText
    cases isText
  exact ⟨noText, by decide, (references_in_order (.map nestedReferences)).2.2.2 nestedReferences noText⟩

end RouteCompiler
