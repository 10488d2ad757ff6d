/-
**Resolving a document, step by step.**

A document is resolved in two steps: every reference to a component is replaced, with or without a memory,
and the outcome is refused when references remain. The components are part of the document, so their
bodies are replaced as well, whether they are referred to or not.

* `registryOf`, `substituted`, `withoutOrphans`: the steps;
* `resolveDocument_outcome`, `resolveDocument_ok_iff`: the outcome of resolving is that of the steps;
* `mem_ofComponents`, `ofComponents_error`: which components are registered, and when none can be;
* `exists_node_of_body?`, `maps_body_subset`: the body of a component stands in the document.
-/

import RouteCompiler.Proofs.Reference.Memory
import RouteCompiler.Reference.Document

namespace RouteCompiler

/-! ### The steps -/

/-- The registry of the components of a document. -/
def registryOf : Tree → Except Failure Registry
  | .map entries => Registry.ofComponents (componentsOf (withComponents entries))
  | other => .error (.unexpected (.notAnObject other.kind))

/-- A document with components, if it has none. -/
def completed : Tree → Tree
  | .map entries => .map (withComponents entries)
  | other => other

/-- A document with every reference to a component replaced, whatever references remain. -/
def substituted (document : Tree) : Except Failure Tree := do
  let registry ← registryOf document
  registry.resolveDirect (completed document)

/-- A document in which no reference remains. -/
def withoutOrphans (resolved : Tree) : Except Failure Tree :=
  if (references resolved).isEmpty then .ok resolved else .error (.unresolved (references resolved))

/-- **The outcome of resolving is that of its steps**, without a memory. -/
theorem resolveDocument_outcome (document : Tree) :
    (resolveDocument document).outcome.1 = substituted document >>= withoutOrphans := by
  cases document with
  | map entries =>
    unfold resolveDocument Run.outcome substituted registryOf completed
    simp only [run_bind, Run.run_ofExcept, Run.report, Run.run_reportAll]
    cases Registry.ofComponents (componentsOf (withComponents entries)) with
    | error failure => rfl
    | ok registry =>
      have outcome := (step_sound (Memo.sound_empty registry) (.map (withComponents entries))).1
      simp only [ok_bind, ← outcome]
      cases (registry.step .empty (.map (withComponents entries))).1 with
      | error failure => rfl
      | ok resolved =>
        rw [ok_bind, withoutOrphans]
        simp only
        split <;> rfl
  | _ => rfl

/-- What a document is resolved to: the outcome of substitution, in which no reference remains. -/
theorem resolveDocument_ok_iff {document resolved : Tree} :
    (resolveDocument document).outcome.1 = .ok resolved ↔
      substituted document = .ok resolved ∧ occurrences resolved = [] := by
  have none : (references resolved).isEmpty = true ↔ occurrences resolved = [] := by
    rw [List.isEmpty_iff, List.eq_nil_iff_forall_not_mem, List.eq_nil_iff_forall_not_mem]
    simp only [mem_references]
  rw [resolveDocument_outcome, bind_ok_iff]
  constructor
  · rintro ⟨result, succeeded, accepted⟩
    unfold withoutOrphans at accepted
    split at accepted
    · rename_i noReference
      cases accepted
      exact ⟨succeeded, none.mp noReference⟩
    · cases accepted
  · rintro ⟨succeeded, noReference⟩
    exact ⟨resolved, succeeded, if_pos (none.mpr noReference)⟩

/-! ### Components -/

/-- A registered component stands in a group of the components, under its names. -/
theorem mem_ofComponents {groups : Entries} {registry : Registry}
    (registered : Registry.ofComponents (.map groups) = .ok registry) {component : Component}
    (member : component ∈ registry) :
    ∃ entries, (Scalar.str component.group, Tree.map entries) ∈ groups ∧
      (Scalar.str component.key, component.body) ∈ entries ∧
      component.pointer = componentPointer component.group component.key := by
  obtain ⟨registries, perGroup, same⟩ := bind_ok_iff.mp registered
  cases same
  obtain ⟨ofGroup, inRegistries, inGroup⟩ := List.mem_flatten.mp member
  obtain ⟨⟨group, body⟩, inGroups, made⟩ := exists_left_of_mem (mapM_ok_iff.mp perGroup) inRegistries
  simp only [Registry.ofGroup] at made
  split at made
  · rename_i entries
    obtain ⟨⟨key, value⟩, inEntries, named⟩ := exists_left_of_mem (mapM_ok_iff.mp made) inGroup
    simp only [Registry.component] at named
    split at named
    · cases named
      exact ⟨entries, inGroups, inEntries, rfl⟩
    · cases named
    · cases named
  · cases made
    cases inGroup

/-- Components are not registered when a name is no text, or when they are no object. -/
theorem ofComponents_error {components : Tree} {failure : Failure}
    (failed : Registry.ofComponents components = .error failure) : ∃ cause, failure = .unexpected cause := by
  cases components with
  | map groups =>
    rcases bind_error_iff.mp failed with perGroup | ⟨_, _, same⟩
    · obtain ⟨⟨group, body⟩, _, atGroup⟩ := mapM_error perGroup
      simp only [Registry.ofGroup] at atGroup
      split at atGroup
      · obtain ⟨⟨key, value⟩, _, atKey⟩ := mapM_error atGroup
        simp only [Registry.component] at atKey
        split at atKey
        · cases atKey
        · cases atKey
          exact ⟨_, rfl⟩
        · cases atKey
          exact ⟨_, rfl⟩
      · cases atGroup
    · cases same
  | _ =>
    cases failed
    exact ⟨_, rfl⟩

/-- A pointer addresses the body of a registered component. -/
theorem mem_of_body? {registry : Registry} {pointer : Pointer} {body : Tree}
    (found : registry.body? pointer = some body) :
    ∃ component ∈ registry, component.pointer = pointer ∧ component.body = body := by
  unfold Registry.body? at found
  obtain ⟨component, present, same⟩ := Option.map_eq_some_iff.mp found
  exact ⟨component, List.mem_of_find?_eq_some present, by simpa using List.find?_some present, same⟩

/-- A document has no components when they are left out or absent. -/
theorem registryOf_of_absent {entries : Entries} (absent : OrderedMap.get? entries "components" = none ∨
    OrderedMap.get? entries "components" = some .null) : registryOf (.map entries) = .ok [] := by
  have inserted : withComponents entries = OrderedMap.insert entries "components" (.map []) := if_pos absent
  rw [registryOf, inserted, componentsOf, OrderedMap.get?_insert, if_pos rfl]
  rfl

/-- The components of a document are those that it has. -/
theorem registryOf_of_given {entries : Entries} {components : Tree}
    (given : OrderedMap.get? entries "components" = some components) (notNull : components ≠ .null) :
    registryOf (.map entries) = Registry.ofComponents components := by
  have complete : withComponents entries = entries := by
    refine if_neg ?_
    rintro (absent | isNull)
    · cases given.symm.trans absent
    · exact notNull (Option.some.inj (given.symm.trans isNull))
  rw [registryOf, complete, componentsOf, given]
  rfl

/-- A document that has no components has an empty registry, and every other one is complete. -/
theorem completed_cases (entries : Entries) :
    (registryOf (.map entries) = .ok [] ∧
        withComponents entries = OrderedMap.insert entries "components" (.map [])) ∨
      (withComponents entries = entries ∧
        ∃ components, OrderedMap.get? entries "components" = some components) := by
  by_cases missing : OrderedMap.get? entries "components" = none ∨
      OrderedMap.get? entries "components" = some .null
  · exact Or.inl ⟨registryOf_of_absent missing, if_pos missing⟩
  · exact Or.inr ⟨if_neg missing, Option.ne_none_iff_exists'.mp (not_or.mp missing).1⟩

/-- A document with a registered component is complete. -/
theorem completed_eq {document : Tree} {registry : Registry} (registered : registryOf document = .ok registry)
    {pointer : Pointer} (known : pointer ∈ registry.pointers) : completed document = document := by
  cases document with
  | map entries =>
    rcases completed_cases entries with ⟨empty, _⟩ | ⟨complete, _⟩
    · rw [empty] at registered
      cases registered
      cases known
    · rw [completed, complete]
  | _ => rfl

/-- A component of a document stands there as a value of a map. -/
theorem exists_node_of_body? {document : Tree} {registry : Registry}
    (registered : registryOf document = .ok registry) {pointer : Pointer} {body : Tree}
    (found : registry.body? pointer = some body) : ∃ node ∈ document.maps, ∃ key, (key, body) ∈ node := by
  obtain ⟨component, member, _, rfl⟩ := mem_of_body? found
  cases document with
  | map entries =>
    rcases completed_cases entries with ⟨empty, _⟩ | ⟨complete, components, given⟩
    · rw [empty] at registered
      cases registered
      cases member
    · rw [registryOf, complete, componentsOf, given] at registered
      have inDocument := OrderedMap.mem_of_get?_eq_some given
      cases components with
      | map groups =>
        obtain ⟨inner, inGroups, inInner, _⟩ := mem_ofComponents registered member
        have inComponents : inner ∈ (Tree.map groups).maps :=
          Tree.maps_subset_of_mem inGroups (Tree.self_mem_maps inner)
        exact ⟨inner, Tree.maps_subset_of_mem inDocument inComponents, _, inInner⟩
      | _ => cases registered
  | _ => cases registered

/-- **The body of a component stands in the document.** -/
theorem maps_body_subset {document : Tree} {registry : Registry}
    (registered : registryOf document = .ok registry) {pointer : Pointer} {body : Tree}
    (found : registry.body? pointer = some body) : body.maps ⊆ document.maps := by
  obtain ⟨node, inDocument, _, inNode⟩ := exists_node_of_body? registered found
  exact List.Subset.trans (Tree.maps_subset_of_mem inNode) (Tree.maps_subset_of_mem_maps inDocument)

end RouteCompiler
