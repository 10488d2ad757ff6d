/-
**Documents that resolving stumbles over.**

Resolving takes a document and its components for objects, and sorts the siblings of a reference that cannot be spliced.
Where all keys are texts, the components have their names and the siblings can be sorted. So resolving stumbles over a
document only when it is no object or has components that are none, wherever the references are.

* `RegistryStumbles`, `stumbles_registryOf_iff`: components;
* `siblingFailure_of_texts`, `not_stumbles_direct`: references;
* `stumbles_resolveDocument_iff`: documents.
-/

import RouteCompiler.Proofs.Reference.Keyed
import RouteCompiler.Proofs.Reference.Settled
import RouteCompiler.Proofs.Stumble
import RouteCompiler.Proofs.Tree.KeyOrder

namespace RouteCompiler

variable {registry : Registry} {document : Tree}

/-! ### Components -/

/-- A document in which no components can be looked up. -/
inductive RegistryStumbles : Tree → Prop
  /-- It is no object. -/
  | document {document : Tree} (noMap : ∀ entries, document ≠ .map entries) : RegistryStumbles document
  /-- It has components, and they are no object. -/
  | components {entries : Entries} {components : Tree}
      (given : OrderedMap.get? entries "components" = some components) (notNull : components ≠ .null)
      (noMap : ∀ groups, components ≠ .map groups) : RegistryStumbles (.map entries)

/-- Components have names when all keys are texts. -/
theorem addressable_of_textKeyed {groups : Entries} (textKeyed : (Tree.map groups).TextKeyed) :
    ∀ group ∈ groups, Addressable group := by
  rintro ⟨groupName, _⟩ inGroups entries rfl entry inEntries
  obtain ⟨groupIsText, ofGroup⟩ := Tree.keyedBy_map_iff.mp textKeyed _ inGroups
  obtain ⟨name, named⟩ := Scalar.isText_iff.mp (Tree.keyedBy_map_iff.mp ofGroup.keyed entry inEntries).1
  obtain ⟨group, rfl⟩ := Scalar.isText_iff.mp groupIsText
  exact ⟨group, name, rfl, named⟩

/-- **Registering components stumbles** only where there is no object that they could be in. -/
theorem stumbles_registryOf_iff (textKeyed : document.TextKeyed) :
    Stumbles (registryOf document) ↔ RegistryStumbles document := by
  cases document with
  | map entries =>
    by_cases absent : OrderedMap.get? entries "components" = none ∨ OrderedMap.get? entries "components" = some .null
    · rw [registryOf_of_absent absent]
      refine iff_of_false (Stumbles.not_ok _) ?_
      rintro (noMap | ⟨given, notNull, _⟩)
      · exact noMap entries rfl
      · rcases absent with none | isNull
        · cases given.symm.trans none
        · exact notNull (Option.some.inj (given.symm.trans isNull))
    · obtain ⟨notNone, notNull⟩ := not_or.mp absent
      obtain ⟨components, given⟩ := Option.ne_none_iff_exists'.mp notNone
      have present : components ≠ .null := fun isNull => notNull (given.trans (congrArg some isNull))
      rw [registryOf_of_given given present]
      by_cases isMap : ∃ groups, components = .map groups
      · obtain ⟨groups, rfl⟩ := isMap
        have ofComponents := textKeyed.subset (Tree.maps_subset_of_mem (OrderedMap.mem_of_get?_eq_some given))
        obtain ⟨registry, registered⟩ := exists_ofComponents_iff.mpr (addressable_of_textKeyed ofComponents)
        rw [registered]
        refine iff_of_false (Stumbles.not_ok _) ?_
        rintro (noMap | ⟨same, _, noGroups⟩)
        · exact noMap entries rfl
        · exact noGroups groups (Option.some.inj (same.symm.trans given))
      · have noMap : ∀ groups, components ≠ .map groups := not_exists.mp isMap
        refine iff_of_true ?_ (.components given present noMap)
        cases components with
        | map groups => exact absurd rfl (noMap groups)
        | _ => exact .unexpected _
  | _ => exact iff_of_true (.unexpected _) (.document nofun)

/-! ### References -/

/-- Siblings whose keys are texts can be named. -/
theorem siblingFailure_of_texts {pointer : Pointer} {entries : Entries}
    (texts : ∀ entry ∈ entries, entry.1.isText = true) :
    ∃ keys, siblingFailure pointer entries = .malformed (.siblingsOfValue keys) (.str pointer) := by
  have areTexts : ∀ key ∈ siblings entries, ∃ text, key = .str text := by
    intro key member
    obtain ⟨entry, inEntries, rfl⟩ := List.mem_map.mp (List.mem_of_mem_filter member)
    exact Scalar.isText_iff.mp (texts entry inEntries)
  obtain ⟨keys, sorted, same⟩ := sortKeys?_of_texts areTexts
  have spellable : (SchemaProblem.siblingsOfValue keys).isSpellable = true := by
    refine List.all_eq_true.mpr fun key member => ?_
    obtain ⟨text, rfl⟩ := areTexts key (same.subset member)
    rfl
  refine ⟨keys, ?_⟩
  rw [siblingFailure, sorted]
  exact if_pos (by rw [spellable]; rfl)

theorem siblingFailure_ne_unexpected {tree : Tree} (textKeyed : tree.TextKeyed) {pointer : Pointer}
    {entries : Entries} (inside : entries ∈ tree.maps) (cause : Unexpected) :
    siblingFailure pointer entries ≠ .unexpected cause := by
  have texts : ∀ entry ∈ entries, entry.1.isText = true := fun entry member => (textKeyed entries inside entry member).1
  obtain ⟨keys, same⟩ := siblingFailure_of_texts texts
  rw [same]
  exact nofun

/-- No reference makes resolving stumble. What it stands for is made of components, and their keys are texts. -/
theorem not_stumbles_direct (registered : registryOf document = .ok registry) (textKeyed : document.TextKeyed)
    {chain : List Pointer} {pointer : Pointer} {outcome : Except Failure Tree}
    (known : registry.direct? chain pointer = some outcome) : ¬ Stumbles outcome := by
  rintro ⟨cause, rfl⟩
  induction chain using registry.chain_induction generalizing pointer with
  | step chain ih =>
    rcases Registry.direct?_error known with ⟨_, same⟩ | ⟨body, isBody, fresh, inside⟩
    · cases same
    · rcases expand_error inside with ⟨next, _, failing⟩ | ⟨beside, entries, inBody, same⟩
      · exact ih pointer (Registry.mem_pointers_of_body? isBody) fresh failing
      · have keyed := textKeyed.subset (maps_body_subset registered isBody)
        exact siblingFailure_ne_unexpected keyed inBody cause same.symm

/-! ### Documents -/

/-- **Replacing references stumbles** only where there is no object that components could be in. -/
theorem stumbles_substituted_iff (textKeyed : document.TextKeyed) :
    Stumbles (substituted document) ↔ RegistryStumbles document := by
  rw [substituted, Stumbles.bind_iff, stumbles_registryOf_iff textKeyed]
  refine or_iff_left ?_
  rintro ⟨registry, registered, cause, inside⟩
  have keyed : (completed document).TextKeyed := keyedBy_completed rfl textKeyed
  rcases expand_error inside with ⟨pointer, _, failing⟩ | ⟨beside, entries, within, same⟩
  · exact not_stumbles_direct registered textKeyed failing (.unexpected cause)
  · exact siblingFailure_ne_unexpected keyed within cause same.symm

/-- **Resolving a document whose keys are texts stumbles** exactly when there is no object that components could be
in, whatever the document refers to. -/
theorem stumbles_resolveDocument_iff (textKeyed : document.TextKeyed) :
    Stumbles (resolveDocument document).outcome.1 ↔ RegistryStumbles document := by
  rw [resolveDocument_outcome, Stumbles.bind_iff_left, stumbles_substituted_iff textKeyed]
  intro resolved
  unfold withoutOrphans
  split
  · exact Stumbles.not_ok _
  · rintro ⟨_, same⟩
    cases same

end RouteCompiler
