/-
**Resolving a document again.**

What a document is resolved to has components and no references, so resolving it again finds nothing to
replace. But the names of its components are read again, to register them. They were texts in the document as
it was written. They still are when neither the components nor a group of them is a reference; a reference
there brings in the names of another object, which need not be texts, and then the resolved document is refused.

* `expand_eq_self`: a tree without known references stays as it is;
* `Addressable`, `exists_ofComponents_iff`: components that can be registered;
* `exists_groups_of_substituted`, `addressable_of_inPlace`: the components of a resolved document;
* `resolve_settled`: resolving a document with components and without references;
* `resolve_resolved`: resolving, and compiling, what a document is resolved to.
-/

import RouteCompiler.Proofs.Reference.Sites
import RouteCompiler.Proofs.Route.Fault

namespace RouteCompiler

variable {registry : Registry} {document : Tree}

/-! ### Without references -/

/-- A tree without known references stays as it is. -/
theorem expand_eq_self {meaning : Meaning} {tree : Tree}
    (unknown : ∀ pointer ∈ occurrences tree, meaning pointer = none) :
    expand meaning tree = .ok tree := by
  induction tree using Tree.nested_induction with
  | atomic tree atomic => exact atomic.expand_eq
  | list items ih =>
    refine expand_list_ok_iff.mpr ⟨items, expandItems_ok_iff.mpr ?_, rfl⟩
    refine List.forall₂_same.mpr fun item member => ih item member fun pointer found => ?_
    exact unknown pointer (mem_occurrences_list.mpr ⟨item, member, found⟩)
  | map entries ih =>
    refine expand_map_ok_iff.mpr (.kept (fun pointer isReference => ?_) (expandEntries_ok_iff.mpr ?_))
    · exact unknown pointer (mem_occurrences_map.mpr (Or.inl isReference))
    · refine List.forall₂_same.mpr fun entry member => ⟨rfl, ih entry member fun pointer found => ?_⟩
      exact unknown pointer (mem_occurrences_map.mpr (Or.inr ⟨entry, member, found⟩))

/-! ### Names of components -/

/-- The components of a group can be addressed: if it is an object, it and they are named by texts. -/
def Addressable (group : Scalar × Tree) : Prop :=
  ∀ entries, group.2 = .map entries → ∀ entry ∈ entries,
    ∃ groupName name, group.1 = .str groupName ∧ entry.1 = .str name

theorem exists_component_iff {group key : Scalar} {body : Tree} :
    (∃ component, Registry.component group key body = .ok component) ↔
      ∃ groupName name, group = .str groupName ∧ key = .str name := by
  constructor
  · rintro ⟨component, made⟩
    unfold Registry.component at made
    split at made
    · exact ⟨_, _, rfl, rfl⟩
    · cases made
    · cases made
  · rintro ⟨groupName, name, rfl, rfl⟩
    exact ⟨_, rfl⟩

theorem exists_ofGroup_iff {group : Scalar} {tree : Tree} :
    (∃ registry, Registry.ofGroup group tree = .ok registry) ↔ Addressable (group, tree) := by
  cases tree with
  | map entries =>
    rw [Registry.ofGroup, exists_mapM_iff]
    simp only [exists_component_iff, Addressable, Tree.map.injEq, forall_eq']
  | _ =>
    constructor
    · intro _ entries isMap
      cases isMap
    · exact fun _ => ⟨[], rfl⟩

theorem exists_ofComponents_iff {groups : Entries} :
    (∃ registry, Registry.ofComponents (.map groups) = .ok registry) ↔ ∀ group ∈ groups, Addressable group := by
  have each : (∃ registries, (groups.mapM fun group => Registry.ofGroup group.1 group.2) = .ok registries) ↔
      ∀ group ∈ groups, Addressable group := by
    rw [exists_mapM_iff]
    simp only [exists_ofGroup_iff]
  rw [← each]
  constructor
  · rintro ⟨registry, made⟩
    obtain ⟨registries, perGroup, _⟩ := bind_ok_iff.mp made
    exact ⟨registries, perGroup⟩
  · rintro ⟨registries, perGroup⟩
    exact ⟨_, bind_ok_iff.mpr ⟨registries, perGroup, rfl⟩⟩

/-! ### Components of a resolved document -/

/-- The components of a document whose components can be registered, which may have to be added. -/
theorem exists_groups {entries : Entries} (registered : registryOf (.map entries) = .ok registry) :
    ∃ groups, OrderedMap.get? (withComponents entries) "components" = some (.map groups) ∧
      Registry.ofComponents (.map groups) = .ok registry := by
  rcases completed_cases entries with ⟨empty, inserted⟩ | ⟨complete, components, given⟩
  · cases registered.symm.trans empty
    exact ⟨[], by rw [inserted, OrderedMap.get?_insert, if_pos rfl], rfl⟩
  · rw [registryOf, complete, componentsOf, given] at registered
    cases components with
    | map groups => exact ⟨groups, by rw [complete, given], registered⟩
    | _ => cases registered

/-- Components that can be registered become an object. -/
theorem exists_groups_of_expand {chain : List Pointer} {groups : Entries} {result : Tree}
    (fromGroups : Registry.ofComponents (.map groups) = .ok registry)
    (succeeded : expand (registry.direct? chain) (.map groups) = .ok result) :
    ∃ results, result = .map results := by
  cases expand_map_ok_iff.mp succeeded with
  | kept unknown values => exact ⟨_, rfl⟩
  | spliced isReference found values => exact ⟨_, rfl⟩
  | replaced isReference found noMap alone =>
    -- no group of theirs would be an object, so they would refer to nothing
    rw [eq_singleton_of_reference isReference alone] at fromGroups
    cases fromGroups
    cases (Registry.direct?_of_none rfl chain).symm.trans found

theorem not_refers_completed (registered : registryOf document = .ok registry)
    (root : ¬ registry.Refers document) :
    ¬ registry.Refers (completed document) := by
  intro refers
  cases document with
  | map entries =>
    obtain ⟨pointer, isReference, known⟩ := refers
    exact root (completed_eq registered known ▸ ⟨pointer, isReference, known⟩)
  | _ => exact refers

/-- The components of a document without a reference at its root, which may have to be added, become those of
what it is resolved to. -/
theorem exists_groups_of_substituted (registered : registryOf document = .ok registry)
    (root : ¬ registry.Refers document) {resolved : Tree} (succeeded : substituted document = .ok resolved) :
    ∃ groups entries results, (completed document).get? "components" = some (.map groups) ∧
      Registry.ofComponents (.map groups) = .ok registry ∧
      resolved = .map entries ∧ resolved.get? "components" = some (.map results) ∧
      expand (registry.direct? []) (.map groups) = .ok (.map results) := by
  rw [substituted, registered, ok_bind] at succeeded
  cases document with
  | map entries =>
    have stays := not_refers_completed registered root
    obtain ⟨results, rfl, matched⟩ := Registry.expand_of_not_refers stays succeeded
    obtain ⟨groups, given, fromGroups⟩ := exists_groups registered
    obtain ⟨components, atResults, becomes⟩ := matched.get?_right given
    obtain ⟨inner, rfl⟩ := exists_groups_of_expand fromGroups becomes
    exact ⟨groups, results, inner, given, fromGroups, rfl, atResults, becomes⟩
  | _ => cases registered

theorem Registry.not_refers_nil (tree : Tree) : ¬ Registry.Refers [] tree := by
  intro refers
  cases tree with
  | map entries =>
    obtain ⟨_, _, known⟩ := refers
    cases known
  | _ => exact refers

/-- A group that is no reference keeps its names, and what is no object does not become one. -/
theorem Addressable.expand {chain : List Pointer} {name : Scalar} {group result : Tree}
    (addressable : Addressable (name, group)) (stays : ¬ registry.Refers group)
    (succeeded : expand (registry.direct? chain) group = .ok result) : Addressable (name, result) := by
  rintro results rfl ⟨key, partner⟩ member
  obtain ⟨entries, rfl, matched⟩ := Registry.eq_map_of_not_refers stays succeeded
  obtain ⟨value, inGroup, _⟩ := matched.mem_left member
  exact addressable entries rfl (key, value) inGroup

theorem inPlace_completed (registered : registryOf document = .ok registry)
    (inPlace : registry.InPlace document) : registry.InPlace (completed document) := by
  cases document with
  | map entries =>
    rcases completed_cases entries with ⟨empty, _⟩ | ⟨complete, _⟩
    · cases registered.symm.trans empty
      exact ⟨Registry.not_refers_nil _, fun _ _ => Registry.not_refers_nil _,
        fun _ _ => Registry.not_refers_nil _⟩
    · rw [completed, complete]
      exact inPlace
  | _ => exact inPlace

/-- Components stay addressable when no reference stands above them. -/
theorem addressable_of_inPlace (registered : registryOf document = .ok registry)
    (inPlace : registry.InPlace document) {resolved : Tree} (succeeded : substituted document = .ok resolved) :
    ∀ group ∈ groupsOf resolved, Addressable group := by
  obtain ⟨groups, entries, results, given, fromGroups, rfl, atResults, becomes⟩ :=
    exists_groups_of_substituted registered inPlace.root succeeded
  have inCompleted := inPlace_completed registered inPlace
  obtain ⟨_, same, perGroup⟩ := Registry.expand_of_not_refers (inCompleted.components _ given) becomes
  cases same
  rw [groupsOf_eq atResults]
  rintro ⟨name, result⟩ member
  obtain ⟨group, inGroups, atGroup⟩ := perGroup.mem_left member
  have stays := inCompleted.groups _ (groupsOf_eq given ▸ inGroups)
  exact (exists_ofComponents_iff.mp ⟨registry, fromGroups⟩ _ inGroups).expand stays atGroup

/-! ### Resolving again -/

theorem registryOf_of_groups {entries groups : Entries}
    (given : OrderedMap.get? entries "components" = some (.map groups)) :
    withComponents entries = entries ∧ registryOf (.map entries) = Registry.ofComponents (.map groups) := by
  have complete : withComponents entries = entries := by
    rw [withComponents, if_neg]
    rw [given]
    rintro (absent | isNull)
    · cases absent
    · cases isNull
  exact ⟨complete, by rw [registryOf, complete, componentsOf, given]; rfl⟩

/-- Resolving a document with components and without references: it stays as it is, if the components can be
addressed. -/
theorem resolve_settled {entries groups : Entries}
    (given : OrderedMap.get? entries "components" = some (.map groups))
    (noReference : occurrences (.map entries) = []) :
    ((∀ group ∈ groups, Addressable group) → (resolveDocument (.map entries)).outcome.1 = .ok (.map entries)) ∧
      (¬ (∀ group ∈ groups, Addressable group) →
        ∃ cause, (resolveDocument (.map entries)).outcome.1 = .error (.unexpected cause)) := by
  obtain ⟨complete, fromGroups⟩ := registryOf_of_groups given
  rw [← exists_ofComponents_iff, resolveDocument_outcome, substituted, fromGroups, completed, complete]
  cases made : Registry.ofComponents (.map groups) with
  | ok registry =>
    refine ⟨fun _ => ?_, fun failed => absurd ⟨registry, rfl⟩ failed⟩
    have unknown : ∀ pointer ∈ occurrences (.map entries), registry.direct? [] pointer = none := by
      rw [noReference]
      exact fun pointer found => absurd found List.not_mem_nil
    have none : (references (.map entries)).isEmpty = true := by rw [references, noReference]; rfl
    rw [ok_bind, Registry.resolveDirect, expand_eq_self unknown, ok_bind, withoutOrphans, if_pos none]
  | error failure =>
    obtain ⟨cause, rfl⟩ := ofComponents_error made
    refine ⟨?_, fun _ => ⟨cause, rfl⟩⟩
    rintro ⟨registry, same⟩
    cases same

/-- **Resolving what a document is resolved to** changes nothing, and compiling it comes to the same as compiling
the document, when the names of its components are texts. They are if no reference stands above the components.
When some name is no text, the resolved document is refused. -/
theorem resolve_resolved (registered : registryOf document = .ok registry) (root : ¬ registry.Refers document)
    {resolved : Tree} (resolves : (resolveDocument document).outcome.1 = .ok resolved) :
    ((∀ group ∈ groupsOf resolved, Addressable group) →
        (resolveDocument resolved).outcome.1 = .ok resolved ∧
          ∀ settings handlers, (compileDocument settings handlers resolved).outcome.1 =
            (compileDocument settings handlers document).outcome.1) ∧
      (¬ (∀ group ∈ groupsOf resolved, Addressable group) →
        ∃ cause, (resolveDocument resolved).outcome.1 = .error (.unexpected cause) ∧
          ∀ settings handlers,
            (compileDocument settings handlers resolved).outcome.1 = .error (.unexpected cause)) ∧
      (registry.InPlace document → ∀ group ∈ groupsOf resolved, Addressable group) := by
  obtain ⟨succeeded, noReference⟩ := resolveDocument_ok_iff.mp resolves
  obtain ⟨_, entries, groups, _, _, rfl, given, _⟩ := exists_groups_of_substituted registered root succeeded
  obtain ⟨stays, fails⟩ := resolve_settled given noReference
  rw [← groupsOf_eq given] at stays fails
  refine ⟨fun addressable => ?_, fun notAddressable => ?_, fun inPlace =>
    addressable_of_inPlace registered inPlace succeeded⟩
  · have again := stays addressable
    refine ⟨again, fun settings handlers => ?_⟩
    rw [compileDocument_outcome, again, compileDocument_outcome, resolves]
  · obtain ⟨cause, again⟩ := fails notAddressable
    refine ⟨cause, again, fun settings handlers => ?_⟩
    rw [compileDocument_outcome, again, error_bind]

theorem resolve_branchResolved :
    registryOf branchDocument = .ok branchComponents ∧ ¬ branchComponents.Refers branchDocument ∧
      (resolveDocument branchDocument).outcome.1 = .ok branchResolved ∧
      ((∀ group ∈ groupsOf branchResolved, Addressable group) →
        (resolveDocument branchResolved).outcome.1 = .ok branchResolved ∧
          ∀ settings handlers, (compileDocument settings handlers branchResolved).outcome.1 =
            (compileDocument settings handlers branchDocument).outcome.1) ∧
      (¬ (∀ group ∈ groupsOf branchResolved, Addressable group) →
        ∃ cause, (resolveDocument branchResolved).outcome.1 = .error (.unexpected cause) ∧
          ∀ settings handlers,
            (compileDocument settings handlers branchResolved).outcome.1 = .error (.unexpected cause)) ∧
      (branchComponents.InPlace branchDocument → ∀ group ∈ groupsOf branchResolved, Addressable group) := by
  have root : ¬ branchComponents.Refers branchDocument := by decide
  exact ⟨registryOf_branchDocument, root, resolve_branchDocument,
    resolve_resolved registryOf_branchDocument root resolve_branchDocument⟩

/-- A document with a group of components that is a reference to an object with a number for a name. -/
def codesDocument : Tree :=
  .map [("components", .map [
    ("schemas", .map [("Codes", codes)]), ("responses", .map [(refKey, .str "#/components/schemas/Codes")])])]
where
  codes : Tree := .map [(.int 200, .map [("description", .str "ok")])]

/-- The document after its references are resolved. -/
def codesResolved : Tree :=
  .map [("components", .map [
    ("schemas", .map [("Codes", codesDocument.codes)]), ("responses", codesDocument.codes)])]

/-- Resolving a resolved document need not leave it as it is: it may be refused. -/
theorem resolved_document_may_be_refused :
    ¬ ∀ (document resolved : Tree) (registry : Registry), document.KeysApart →
      registryOf document = .ok registry → ¬ registry.Refers document →
      (resolveDocument document).outcome.1 = .ok resolved →
      (resolveDocument resolved).outcome.1 = .ok resolved := by
  intro unchanged
  have registered : registryOf codesDocument = .ok [
      ⟨"#/components/schemas/Codes", "schemas", "Codes", codesDocument.codes⟩,
      ⟨"#/components/responses/$ref", "responses", "$ref", .str "#/components/schemas/Codes"⟩] := rfl
  have resolves : (resolveDocument codesDocument).outcome.1 = .ok codesResolved :=
    resolveDocument_ok_iff.mpr (by decide +kernel)
  have again := unchanged codesDocument codesResolved _ (by decide +kernel) registered (by decide) resolves
  have refused : (resolveDocument codesResolved).outcome.1 = .error (.unexpected (.nameNotText "int")) := by
    rw [resolveDocument_outcome]
    rfl
  cases again.symm.trans refused

end RouteCompiler
