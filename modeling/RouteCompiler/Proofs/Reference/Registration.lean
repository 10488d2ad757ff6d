/-
**What is registered.**

Every component of a group that is an object is registered, group by group and in the order of the document, and
nothing else is. Pointers are the keys under which components are found, so a component would be lost if another one
had its pointer. None has: a pointer can be read back, and names are distinct within a group, groups within the
components. Which slashes and tildes the names contain does not matter.

* `declaredComponents`, `Component.declared`: what the components of a document declare;
* `declared_ofComponents`: what is registered is what is declared;
* `nodup_pointers`: every component has a pointer of its own;
* `Registry.addresses`: the address of every pointer;
* `addresses_of_components`: registered components and their addresses.
-/

import Mathlib.Data.List.Nodup
import RouteCompiler.Proofs.Reference.Address

namespace RouteCompiler

variable {groups : Entries} {registry : Registry}

/-! ### What is declared -/

/-- What the components of a document declare: the entries of the groups that are objects, each with the name of its
group, its own name and its body. -/
def declaredComponents (groups : Entries) : List (Scalar × Scalar × Tree) :=
  groups.flatMap fun group => (group.2.entries?.getD []).map fun entry => (group.1, entry.1, entry.2)

/-- A component as it is declared. -/
def Component.declared (component : Component) : Scalar × Scalar × Tree :=
  (.str component.group, .str component.key, component.body)

theorem declared_component {group key : Scalar} {body : Tree} {component : Component}
    (made : Registry.component group key body = .ok component) : component.declared = (group, key, body) := by
  unfold Registry.component at made
  split at made
  · cases made
    rfl
  · cases made
  · cases made

theorem declared_ofGroup {group : Scalar} {tree : Tree} (made : Registry.ofGroup group tree = .ok registry) :
    registry.map Component.declared = (tree.entries?.getD []).map fun entry => (group, entry.1, entry.2) := by
  cases tree with
  | map entries =>
    have each : List.Forall₂ (fun (entry : Scalar × Tree) component =>
        Registry.component group entry.1 entry.2 = .ok component) entries registry := mapM_ok_iff.mp made
    show registry.map Component.declared = entries.map fun entry => (group, entry.1, entry.2)
    clear made
    induction each with
    | nil => rfl
    | cons here _ ih => rw [List.map_cons, List.map_cons, declared_component here, ih]
  | _ =>
    cases made
    rfl

/-- **What is registered is what is declared**, in its order. -/
theorem declared_ofComponents (registered : Registry.ofComponents (.map groups) = .ok registry) :
    registry.map Component.declared = declaredComponents groups := by
  obtain ⟨registries, perGroup, same⟩ := bind_ok_iff.mp registered
  cases same
  have each : List.Forall₂ (fun (group : Scalar × Tree) ofGroup =>
      Registry.ofGroup group.1 group.2 = .ok ofGroup) groups registries := mapM_ok_iff.mp perGroup
  clear registered perGroup
  induction each with
  | nil => rfl
  | cons here _ ih =>
    rw [List.flatten_cons, List.map_append, declared_ofGroup here, declaredComponents, List.flatMap_cons]
    congr 1

/-! ### Pointers -/

/-- Names are distinct within a group, and groups within the components, as in every document that is read. -/
structure NamesApart (groups : Entries) : Prop where
  among : OrderedMap.Distinct groups
  within : ∀ group ∈ groups, ∀ entries, group.2 = .map entries → OrderedMap.Distinct entries

/-- Names are apart where no map has a key twice. -/
theorem NamesApart.of_keysApart (apart : (Tree.map groups).KeysApart) : NamesApart groups := by
  obtain ⟨among, inside⟩ := Tree.keysApart_map_iff.mp apart
  refine ⟨among.distinct, fun group member entries isMap => ?_⟩
  have ofGroup : (Tree.map entries).KeysApart := isMap ▸ inside group member
  exact (Tree.keysApart_map_iff.mp ofGroup).1.distinct

/-- No two components are declared under the same names. -/
theorem NamesApart.nodup (apart : NamesApart groups) :
    ((declaredComponents groups).map fun declared => (declared.1, declared.2.1)).Nodup := by
  rw [declaredComponents, List.map_flatMap]
  refine List.nodup_flatMap.mpr ⟨fun group member => ?_, ?_⟩
  · obtain ⟨name, tree⟩ := group
    cases tree with
    | map entries =>
      have distinct : (entries.map (·.1)).Nodup := apart.within _ member entries rfl
      have named := distinct.map (f := fun key => (name, key)) fun first second same => (Prod.mk.inj same).2
      simpa [Tree.entries?, List.map_map, Function.comp_def] using named
    | _ => exact List.nodup_nil
  · refine (List.pairwise_map.mp apart.among).imp fun {first second} differ => ?_
    simp only [Function.onFun, List.disjoint_left, List.mem_map]
    rintro names ⟨_, ⟨_, _, rfl⟩, rfl⟩ ⟨_, ⟨_, _, rfl⟩, same⟩
    exact differ (Prod.mk.inj same).1.symm

variable (registered : Registry.ofComponents (.map groups) = .ok registry) (apart : NamesApart groups)

include registered

theorem pointer_of_mem {component : Component} (member : component ∈ registry) :
    component.pointer = componentPointer component.group component.key := by
  obtain ⟨_, _, _, named⟩ := mem_ofComponents registered member
  exact named

theorem eq_of_mem {component : Component} (member : component ∈ registry) :
    component = ⟨componentPointer component.group component.key, component.group, component.key, component.body⟩ := by
  rw [← pointer_of_mem registered member]

theorem mem_declared_iff (group key : String) (body : Tree) :
    (Scalar.str group, Scalar.str key, body) ∈ declaredComponents groups ↔
      (⟨componentPointer group key, group, key, body⟩ : Component) ∈ registry := by
  rw [← declared_ofComponents registered]
  constructor
  · intro declared
    obtain ⟨component, member, same⟩ := List.mem_map.mp declared
    simp only [Component.declared, Prod.mk.injEq, Scalar.str.injEq] at same
    obtain ⟨sameGroup, sameKey, sameBody⟩ := same
    have whole := eq_of_mem registered member
    rw [sameGroup, sameKey, sameBody] at whole
    exact whole ▸ member
  · exact fun member => List.mem_map.mpr ⟨_, member, rfl⟩

include apart

/-- No two registered components have the same names. -/
theorem nodup_names : (registry.map fun component => (component.group, component.key)).Nodup := by
  have declared := apart.nodup
  rw [← declared_ofComponents registered, List.map_map] at declared
  have names : (registry.map fun component => (component.group, component.key)).map
      (Prod.map Scalar.str Scalar.str) = (registry.map fun component => (component.declared.1,
        component.declared.2.1)) := by
    rw [List.map_map]
    rfl
  refine List.Nodup.of_map (Prod.map Scalar.str Scalar.str) ?_
  rw [names]
  exact declared

/-- **Every registered component has a pointer of its own.** -/
theorem nodup_pointers : registry.pointers.Nodup := by
  have pointers : registry.pointers =
      (registry.map fun component => (component.group, component.key)).map fun names =>
        componentPointer names.1 names.2 := by
    rw [Registry.pointers, List.map_map]
    exact List.map_congr_left fun component member => pointer_of_mem registered member
  rw [pointers]
  refine (nodup_names registered apart).map fun first second same => ?_
  obtain ⟨sameGroup, sameKey⟩ := componentPointer_inj.mp same
  exact Prod.ext sameGroup sameKey

/-- The body that is found under the pointer of an address is the one that is declared there. -/
theorem body?_eq_some_iff (group key : String) (body : Tree) :
    registry.body? (componentPointer group key) = some body ↔
      (Scalar.str group, Scalar.str key, body) ∈ declaredComponents groups := by
  rw [mem_declared_iff registered]
  constructor
  · intro found
    obtain ⟨component, member, pointer, sameBody⟩ := mem_of_body? found
    obtain ⟨sameGroup, sameKey⟩ := componentPointer_inj.mp ((pointer_of_mem registered member).symm.trans pointer)
    have whole := eq_of_mem registered member
    rw [sameGroup, sameKey, sameBody] at whole
    exact whole ▸ member
  · intro member
    have known : componentPointer group key ∈ registry.pointers := List.mem_map.mpr ⟨_, member, rfl⟩
    obtain ⟨other, found⟩ := Option.isSome_iff_exists.mp ((registry.body?_isSome_iff _).mpr known)
    obtain ⟨component, inRegistry, pointer, same⟩ := mem_of_body? found
    have only : component = ⟨componentPointer group key, group, key, body⟩ :=
      List.inj_on_of_nodup_map (nodup_pointers registered apart) inRegistry member pointer
    rw [found, ← same, only]

/-! ### Addresses -/

/-- The address of every pointer: the names of the group and of the component. Pointers are set one after another, so
of two components with one pointer the later one counts. -/
def Registry.addresses (registry : Registry) : List (Pointer × String × String) :=
  OrderedMap.ofList (registry.map fun component => (component.pointer, component.group, component.key))

/-- No address is lost: there is one for every registered component. -/
theorem addresses_eq : registry.addresses =
    registry.map fun component => (componentPointer component.group component.key, component.group, component.key) := by
  have keys : OrderedMap.keys (registry.map fun component => (component.pointer, component.group, component.key)) =
      registry.pointers := by
    rw [OrderedMap.keys, List.map_map]
    rfl
  have distinct : OrderedMap.Distinct
      (registry.map fun component => (component.pointer, component.group, component.key)) := by
    rw [OrderedMap.Distinct, keys]
    exact nodup_pointers registered apart
  rw [Registry.addresses, OrderedMap.ofList_eq_self distinct]
  exact List.map_congr_left fun component member => by rw [pointer_of_mem registered member]

/-- The address that is found under a pointer is the one that the pointer is made of. -/
theorem get?_addresses_iff (group key : String) (address : String × String) :
    OrderedMap.get? registry.addresses (componentPointer group key) = some address ↔
      address = (group, key) ∧ ∃ body, (Scalar.str group, Scalar.str key, body) ∈ declaredComponents groups := by
  have listed (body : Tree) := mem_declared_iff registered group key body
  constructor
  · intro found
    have member := OrderedMap.mem_of_get?_eq_some found
    rw [addresses_eq registered apart] at member
    obtain ⟨component, inRegistry, same⟩ := List.mem_map.mp member
    obtain ⟨samePointer, rfl⟩ := Prod.mk.inj same
    obtain ⟨rfl, rfl⟩ := componentPointer_inj.mp samePointer
    refine ⟨rfl, component.body, (listed _).mpr ?_⟩
    rw [← pointer_of_mem registered inRegistry]
    exact inRegistry
  · rintro ⟨rfl, body, declared⟩
    refine OrderedMap.get?_eq_some_of_mem (OrderedMap.distinct_ofList _) ?_
    show _ ∈ registry.addresses
    rw [addresses_eq registered apart]
    exact List.mem_map.mpr ⟨_, (listed body).mp declared, rfl⟩

omit registered apart

/-- **Pointers never collide.** A pointer has one pair of names, so components that are named by texts are registered
under a pointer each, all of them and in order, and what is found under the pointer of two names is what is declared
under these names. -/
theorem addresses_of_components :
    (∀ group key otherGroup otherKey : String,
        componentPointer group key = componentPointer otherGroup otherKey → group = otherGroup ∧ key = otherKey) ∧
      ∀ groups : Entries, (∀ group ∈ groups, Addressable group) → NamesApart groups →
        ∃ registry, Registry.ofComponents (.map groups) = .ok registry ∧
          registry.map Component.declared = declaredComponents groups ∧
          (registry.addresses = registry.map fun component =>
            (componentPointer component.group component.key, component.group, component.key)) ∧
          registry.pointers.Nodup ∧
          ∀ group key : String,
            (∀ address, OrderedMap.get? registry.addresses (componentPointer group key) = some address ↔
              address = (group, key) ∧ ∃ body, (Scalar.str group, Scalar.str key, body) ∈ declaredComponents groups) ∧
            ∀ body, registry.body? (componentPointer group key) = some body ↔
              (Scalar.str group, Scalar.str key, body) ∈ declaredComponents groups := by
  refine ⟨fun group key otherGroup otherKey => componentPointer_inj.mp, fun groups named apart => ?_⟩
  obtain ⟨registry, registered⟩ := exists_ofComponents_iff.mpr named
  refine ⟨registry, registered, declared_ofComponents registered, addresses_eq registered apart,
    nodup_pointers registered apart, fun group key => ⟨get?_addresses_iff registered apart group key, ?_⟩⟩
  exact body?_eq_some_iff registered apart group key

/-- Groups and components whose names hold slashes and tildes, and a group that is no object. -/
def slashedGroups : Entries :=
  [("a/b", .map [("c", .str "first"), ("~1", .null)]), ("note", .str "no object"),
    ("a", .map [("b/c", .str "second"), ("/", .map [])])]

/-- Their components. -/
def slashedComponents : Registry :=
  [component "a/b" "c" (.str "first"), component "a/b" "~1" .null, component "a" "b/c" (.str "second"),
    component "a" "/" (.map [])]
where
  component (group key : String) (body : Tree) : Component := ⟨componentPointer group key, group, key, body⟩

theorem addresses_of_slashedGroups :
    (∀ group ∈ slashedGroups, Addressable group) ∧ NamesApart slashedGroups ∧
      componentPointer "a/b" "~1" ≠ componentPointer "a" "b/c" ∧
      ∃ registry, Registry.ofComponents (.map slashedGroups) = .ok registry ∧ registry = slashedComponents ∧
        OrderedMap.get? registry.addresses "#/components/a/~1" = some ("a", "/") := by
  have made : Registry.ofComponents (.map slashedGroups) = .ok slashedComponents := rfl
  have named : ∀ group ∈ slashedGroups, Addressable group := exists_ofComponents_iff.mp ⟨_, made⟩
  have apart : NamesApart slashedGroups := NamesApart.of_keysApart (by decide)
  obtain ⟨injective, registers⟩ := addresses_of_components
  obtain ⟨registry, registered, _, _, _, found⟩ := registers slashedGroups named apart
  have pointer : componentPointer "a" "/" = "#/components/a/~1" := by decide
  have declared : (Scalar.str "a", Scalar.str "/", Tree.map []) ∈ declaredComponents slashedGroups := by decide
  refine ⟨named, apart, fun same => ?_, registry, registered, Except.ok.inj (registered.symm.trans made), ?_⟩
  · exact absurd (injective _ _ _ _ same).1 (by decide)
  · rw [← pointer]
    exact ((found "a" "/").1 ("a", "/")).mpr ⟨rfl, _, declared⟩

end RouteCompiler
