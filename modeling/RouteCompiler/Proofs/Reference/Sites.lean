/-
**Where components are referred to.**

A component is resolved where it is declared, under no chain, and again at every site that refers to it, under
the chain of the site, from a memory that whichever site came first has filled. The value is the same: a chain
can only make it fail. So each site of a component becomes what the component becomes at its own address.

* `Registry.InPlace`: a document whose components stand under no reference;
* `address`, `exists_leads_address`: where a component stands;
* `registered_of_site`: the references of a document that can be resolved are registered;
* `inlined_eq_component`: a site and the address of its component hold the same value.
-/

import RouteCompiler.Proofs.Reference.Orphans
import RouteCompiler.Proofs.Reference.Position

namespace RouteCompiler

variable {registry : Registry} {document : Tree}

/-! ### Addresses -/

/-- The groups of the components of a document. -/
def groupsOf (document : Tree) : Entries :=
  match document.get? "components" with
  | some (.map groups) => groups
  | _ => []

theorem groupsOf_eq {groups : Entries} (given : document.get? "components" = some (.map groups)) :
    groupsOf document = groups := by
  rw [groupsOf, given]

/-- Nothing above the components of a document is a reference to one: neither the document, nor its
components, nor a group of them. -/
structure Registry.InPlace (registry : Registry) (document : Tree) : Prop where
  root : ¬ registry.Refers document
  components : ∀ components ∈ document.get? "components", ¬ registry.Refers components
  groups : ∀ group ∈ groupsOf document, ¬ registry.Refers group.2

/-- The position of a component in a document. -/
def address (group key : String) : List Tree.Step :=
  [.key "components", .key (.str group), .key (.str key)]

/-- A registry with a component is that of the groups of its document. -/
theorem registered_groups (registered : registryOf document = .ok registry) {pointer : Pointer} {body : Tree}
    (found : registry.body? pointer = some body) :
    ∃ groups, document.get? "components" = some (.map groups) ∧
      Registry.ofComponents (.map groups) = .ok registry := by
  cases document with
  | map entries =>
    rcases completed_cases entries with ⟨empty, _⟩ | ⟨complete, components, given⟩
    · rw [empty] at registered
      cases registered
      cases found
    · rw [registryOf, complete, componentsOf, given] at registered
      cases components with
      | map groups => exact ⟨groups, given, registered⟩
      | _ => cases registered
  | _ => cases registered

/-- **A component stands at its address.** What is passed on the way there are the document, its components and
a group of them. -/
theorem exists_leads_address (passed : Tree → Prop) (apart : document.KeysApart)
    (registered : registryOf document = .ok registry) (root : passed document)
    (components : ∀ components ∈ document.get? "components", passed components)
    (inGroups : ∀ group ∈ groupsOf document, passed group.2) {pointer : Pointer} {body : Tree}
    (found : registry.body? pointer = some body) :
    ∃ group key, pointer = componentPointer group key ∧ Tree.Leads passed document (address group key) body := by
  obtain ⟨groups, given, fromGroups⟩ := registered_groups registered found
  obtain ⟨component, member, rfl, rfl⟩ := mem_of_body? found
  obtain ⟨inner, atGroups, inInner, named⟩ := mem_ofComponents fromGroups member
  have toDocument : document.child? (.key "components") = some (.map groups) := by
    cases document with
    | map entries => exact given
    | _ => cases given
  have groupsApart : (Tree.map groups).KeysApart := apart.subset (Tree.maps_subset_of_child? toDocument)
  have innerApart : (Tree.map inner).KeysApart := groupsApart.subset (Tree.maps_subset_of_mem atGroups)
  have atGroup := OrderedMap.get?_eq_some_of_mem (groupsApart groups (Tree.self_mem_maps _)).distinct atGroups
  have atKey := OrderedMap.get?_eq_some_of_mem (innerApart inner (Tree.self_mem_maps _)).distinct inInner
  refine ⟨component.group, component.key, named, ?_⟩
  refine .step root toDocument (.step (components _ given) atGroup (.step ?_ atKey (.here _)))
  exact inGroups (.str component.group, .map inner) (groupsOf_eq given ▸ atGroups)

/-- No reference is passed on the way to a component whose document has it in place. -/
theorem exists_address (apart : document.KeysApart) (registered : registryOf document = .ok registry)
    (inPlace : registry.InPlace document) {pointer : Pointer} {body : Tree}
    (found : registry.body? pointer = some body) :
    ∃ group key, pointer = componentPointer group key ∧ registry.LeadsTo document (address group key) body :=
  exists_leads_address _ apart registered inPlace.root inPlace.components inPlace.groups found

/-! ### Sites -/

/-- The reference at a site of a document that can be resolved is registered. -/
theorem registered_of_site (apart : document.KeysApart) (registered : registryOf document = .ok registry)
    {resolved : Tree} (resolves : (resolveDocument document).outcome.1 = .ok resolved)
    {position : List Tree.Step} {pointer : Pointer}
    (site : registry.LeadsTo document position (.map [(refKey, .str pointer)])) :
    pointer ∈ registry.pointers := by
  obtain ⟨succeeded, noReference⟩ := resolveDocument_ok_iff.mp resolves
  by_contra unregistered
  have absent : registry.direct? [] pointer = none := Registry.direct?_eq_none_iff.mpr unregistered
  have remains : pointer ∈ occurrences resolved := by
    cases document with
    | map entries =>
      rcases completed_cases entries with ⟨empty, _⟩ | ⟨complete, _⟩
      · cases registered.symm.trans empty
        refine (mem_occurrences_substituted apart registered succeeded (keepsSiblings_nil _)).mpr ?_
        exact ⟨_, Tree.maps_subset_of_at? site.at?_eq (Tree.self_mem_maps _), .unknown rfl absent⟩
      · rw [substituted, registered, ok_bind, completed, complete] at succeeded
        obtain ⟨partner, atSite, becomes⟩ := Registry.LeadsTo.at?_of_expand site succeeded
        rcases expand_bare (keysApart_direct registered apart []) becomes with ⟨_, rfl⟩ | known
        · exact occurrences_subset (Tree.maps_subset_of_at? atSite) (mem_occurrences_map.mpr (Or.inl rfl))
        · cases absent.symm.trans known
    | _ => cases registered
  rw [noReference] at remains
  cases remains

/-- **Every site of a component is the component.** Where a reference without siblings stands, and no reference
above it, the resolved document has what it has at the address of the component. -/
theorem inlined_eq_component (apart : document.KeysApart) (registered : registryOf document = .ok registry)
    (inPlace : registry.InPlace document) {resolved : Tree}
    (resolves : (resolveDocument document).outcome.1 = .ok resolved)
    {position : List Tree.Step} {pointer : Pointer}
    (site : registry.LeadsTo document position (.map [(refKey, .str pointer)])) :
    ∃ group key value, pointer = componentPointer group key ∧ (document.at? (address group key)).isSome ∧
      resolved.at? (address group key) = some value ∧ resolved.at? position = some value := by
  have known := registered_of_site apart registered resolves site
  obtain ⟨succeeded, _⟩ := resolveDocument_ok_iff.mp resolves
  rw [substituted, registered, ok_bind, completed_eq registered known] at succeeded
  obtain ⟨body, found⟩ := Option.isSome_iff_exists.mp ((Registry.body?_isSome_iff registry pointer).mpr known)
  obtain ⟨group, key, named, atAddress⟩ := exists_address apart registered inPlace found
  obtain ⟨value, atComponent, rebuilt⟩ := Registry.LeadsTo.at?_of_expand atAddress succeeded
  obtain ⟨partner, atSite, inlined⟩ := Registry.LeadsTo.at?_of_expand site succeeded
  have same : value = partner := by
    rcases expand_bare (keysApart_direct registered apart []) inlined with ⟨absent, _⟩ | content
    · exact absurd known (Registry.direct?_eq_none_iff.mp absent)
    · -- under the chain of its own pointer the body becomes what it becomes where it is declared
      obtain ⟨other, sameBody, _, underChain⟩ := Registry.direct?_ok_iff.mp content
      cases found.symm.trans sameBody
      have declared := expand_ok_of_agrees (fun next _ =>
        Registry.agrees_of_subset (List.nil_subset _) next) underChain
      exact Except.ok.inj (rebuilt.symm.trans declared)
  refine ⟨group, key, value, named, ?_, atComponent, same ▸ atSite⟩
  rw [atAddress.at?_eq]
  rfl

/-- A document with a component that refers twice to another one, which is declared after it, and with a
reference to the first one in a list. -/
def branchDocument : Tree :=
  .map [
    ("components", .map [("schemas", .map [
      ("Branch", .map [("left", leaf), ("right", leaf)]), ("Leaf", .map [("type", .str "string")])])]),
    ("paths", .list [.map [], branch])]
where
  leaf : Tree := .map [(refKey, .str "#/components/schemas/Leaf")]
  branch : Tree := .map [(refKey, .str "#/components/schemas/Branch")]

/-- The components of the document. -/
def branchComponents : Registry :=
  [⟨"#/components/schemas/Branch", "schemas", "Branch",
      .map [("left", branchDocument.leaf), ("right", branchDocument.leaf)]⟩,
    ⟨"#/components/schemas/Leaf", "schemas", "Leaf", .map [("type", .str "string")]⟩]

/-- The document after its references are resolved. -/
def branchResolved : Tree :=
  .map [
    ("components", .map [("schemas", .map [("Branch", branch), ("Leaf", leaf)])]),
    ("paths", .list [.map [], branch])]
where
  leaf : Tree := .map [("type", .str "string")]
  branch : Tree := .map [("left", leaf), ("right", leaf)]

theorem registryOf_branchDocument : registryOf branchDocument = .ok branchComponents :=
  rfl

theorem resolve_branchDocument : (resolveDocument branchDocument).outcome.1 = .ok branchResolved :=
  resolveDocument_ok_iff.mpr (by decide +kernel)

theorem inlined_of_branchDocument :
    branchDocument.KeysApart ∧ registryOf branchDocument = .ok branchComponents ∧
      branchComponents.InPlace branchDocument ∧
      (resolveDocument branchDocument).outcome.1 = .ok branchResolved ∧
      branchComponents.LeadsTo branchDocument [.key "paths", .item 1]
        (.map [(refKey, .str "#/components/schemas/Branch")]) ∧
      ∃ group key value, "#/components/schemas/Branch" = componentPointer group key ∧
        (branchDocument.at? (address group key)).isSome ∧ branchResolved.at? (address group key) = some value ∧
        branchResolved.at? [.key "paths", .item 1] = some value := by
  have apart : branchDocument.KeysApart := by decide +kernel
  have inPlace : branchComponents.InPlace branchDocument := by
    refine ⟨by decide, ?_, ?_⟩ <;> decide +kernel
  have site : branchComponents.LeadsTo branchDocument [.key "paths", .item 1]
      (.map [(refKey, .str "#/components/schemas/Branch")]) :=
    .step inPlace.root rfl (.step (by decide) rfl (.here _))
  exact ⟨apart, registryOf_branchDocument, inPlace, resolve_branchDocument, site,
    inlined_eq_component apart registryOf_branchDocument inPlace resolve_branchDocument site⟩

end RouteCompiler
