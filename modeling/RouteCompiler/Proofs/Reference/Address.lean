/-
**Pointers and addresses.**

A pointer names a group and a component of it. Both names can be read back: they are escaped, so the only slash
after the start of a pointer is the one between them. A pointer therefore addresses what stands in the document
under its two names, and nothing else. Which components stand around it, and in which order, does not matter.

* `componentPointer_inj`: a pointer has one pair of names;
* `exists_component_of_mem`: what stands in a group is registered;
* `exists_address_of_body?`, `body?_componentPointer`: the body that a pointer addresses is what stands at the
  address.
-/

import RouteCompiler.Proofs.Reference.Settled

namespace RouteCompiler

/-! ### Names -/

theorem escape_injective : Function.Injective escape :=
  Function.LeftInverse.injective unescape_escape

theorem toList_componentPointer (group key : String) :
    (componentPointer group key).toList =
      componentsRoot.toList ++ (escape group.toList ++ '/' :: escape key.toList) := by
  simp [componentPointer, String.toList_append]

/-- **A pointer has one pair of names**, whatever slashes and tildes they contain. -/
theorem componentPointer_inj {group key otherGroup otherKey : String} :
    componentPointer group key = componentPointer otherGroup otherKey ↔ group = otherGroup ∧ key = otherKey := by
  constructor
  · intro same
    have chars := congrArg String.toList same
    rw [toList_componentPointer, toList_componentPointer, List.append_cancel_left_eq] at chars
    -- the names hold no slash, so the lists are cut at the same place
    obtain ⟨sameGroup, _, sameKey⟩ := (List.append_cons_inj_of_notMem (slash_not_mem_escape _)
      (slash_not_mem_escape _)).mp chars
    exact ⟨String.toList_injective (escape_injective sameGroup), String.toList_injective (escape_injective sameKey)⟩
  · rintro ⟨rfl, rfl⟩
    rfl

/-! ### Bodies -/

variable {registry : Registry} {document : Tree}

/-- What stands in a group of the components is registered. -/
theorem exists_component_of_mem {groups entries : Entries} {group key : String} {body : Tree}
    (registered : Registry.ofComponents (.map groups) = .ok registry)
    (inGroups : (Scalar.str group, Tree.map entries) ∈ groups) (inGroup : (Scalar.str key, body) ∈ entries) :
    componentPointer group key ∈ registry.pointers := by
  obtain ⟨registries, perGroup, same⟩ := bind_ok_iff.mp registered
  cases same
  obtain ⟨ofGroup, inRegistries, made⟩ := exists_right_of_mem (mapM_ok_iff.mp perGroup) inGroups
  obtain ⟨component, inRegistry, named⟩ := exists_right_of_mem (mapM_ok_iff.mp made) inGroup
  cases named
  exact List.mem_map.mpr ⟨_, List.mem_flatten.mpr ⟨ofGroup, inRegistries, inRegistry⟩, rfl⟩

/-- A pointer addresses the component that has its names. -/
theorem exists_address_of_body? (apart : document.KeysApart) (registered : registryOf document = .ok registry)
    {pointer : Pointer} {body : Tree} (found : registry.body? pointer = some body) :
    ∃ group key, pointer = componentPointer group key ∧ document.at? (address group key) = some body := by
  obtain ⟨group, key, named, leads⟩ := exists_leads_address (fun _ => True) apart registered trivial
    (fun _ _ => trivial) (fun _ _ => trivial) found
  exact ⟨group, key, named, leads.at?_eq⟩

theorem exists_map_of_child? {tree inner : Tree} {key : Scalar} (child : tree.child? (.key key) = some inner) :
    ∃ entries, tree = .map entries ∧ (key, inner) ∈ entries := by
  cases tree with
  | map entries => exact ⟨entries, rfl, OrderedMap.mem_of_get?_eq_some child⟩
  | _ => cases child

/-- What stands at the address of a component is registered. -/
theorem mem_pointers_of_at? (registered : registryOf document = .ok registry) {group key : String} {body : Tree}
    (stands : document.at? (address group key) = some body) : componentPointer group key ∈ registry.pointers := by
  obtain ⟨components, atComponents, inside⟩ := Option.bind_eq_some_iff.mp stands
  obtain ⟨ofGroup, atGroup, further⟩ := Option.bind_eq_some_iff.mp inside
  obtain ⟨inner, atKey, same⟩ := Option.bind_eq_some_iff.mp further
  cases same
  obtain ⟨groups, rfl, inGroups⟩ := exists_map_of_child? atGroup
  obtain ⟨entries, rfl, inGroup⟩ := exists_map_of_child? atKey
  cases document with
  | map top =>
    rw [(registryOf_of_groups atComponents).2] at registered
    exact exists_component_of_mem registered inGroups inGroup
  | _ => cases atComponents

/-- **The body that a pointer addresses** is what stands in the document under its two names. -/
theorem body?_componentPointer (apart : document.KeysApart) (registered : registryOf document = .ok registry)
    (group key : String) :
    registry.body? (componentPointer group key) = document.at? (address group key) := by
  have ofBody {body : Tree} (found : registry.body? (componentPointer group key) = some body) :
      document.at? (address group key) = some body := by
    obtain ⟨_, _, named, stands⟩ := exists_address_of_body? apart registered found
    obtain ⟨rfl, rfl⟩ := componentPointer_inj.mp named
    exact stands
  cases found : registry.body? (componentPointer group key) with
  | some body => exact (ofBody found).symm
  | none =>
    cases stands : document.at? (address group key) with
    | none => rfl
    | some body => exact absurd (mem_pointers_of_at? registered stands) (Registry.body?_eq_none_iff.mp found)

end RouteCompiler
