/-
**What the paths of a document depend on.**

A component is reached from a tree when a reference to it stands in the tree, or in the body of a component that
is reached already. Replacing the references of the tree looks into no other component. So the paths of two
documents are resolved to the same, when they are the same and the documents agree on the components that they
reach. Other components may be added, left out or changed, and all may stand in another order.

* `Registry.Reaches`: the pointers that are reached from a tree;
* `Registry.Reaches.mem_of_closed`: they are the least set that is closed under the references of bodies;
* `Registry.agrees_of_reaches`: a pointer that is reached stands for the same in both registries;
* `get?_substituted`: what becomes of a value of a document without a reference at its root;
* `resolved_paths_eq`: the paths of two documents.
-/

import RouteCompiler.Proofs.Reference.Address

namespace RouteCompiler

/-! ### Reach -/

/-- A pointer is reached from a tree: it is a reference of the tree or of the body of a component that is
reached. -/
inductive Registry.Reaches (registry : Registry) (tree : Tree) : Pointer → Prop
  /-- The reference stands in the tree. -/
  | here {pointer : Pointer} (found : pointer ∈ occurrences tree) : registry.Reaches tree pointer
  /-- The reference stands in a component that is reached. -/
  | through {pointer next : Pointer} {body : Tree} (reached : registry.Reaches tree pointer)
      (isBody : registry.body? pointer = some body) (found : next ∈ occurrences body) :
      registry.Reaches tree next

namespace Registry

variable {registry : Registry} {tree : Tree} {pointer : Pointer}

/-- What is reached from a tree stays among pointers that contain the references of the tree and, with each
pointer, those of its body. -/
theorem Reaches.mem_of_closed {kept : List Pointer} (start : occurrences tree ⊆ kept)
    (closed : ∀ pointer ∈ kept, ∀ body ∈ registry.body? pointer, occurrences body ⊆ kept)
    (reached : registry.Reaches tree pointer) : pointer ∈ kept := by
  induction reached with
  | here found => exact start found
  | through _ isBody found ih => exact closed _ ih _ isBody found

/-- **A pointer that is reached stands for the same** in a registry that has the same bodies for all that is
reached. -/
theorem agrees_of_reaches {other : Registry}
    (same : ∀ pointer, registry.Reaches tree pointer → registry.body? pointer = other.body? pointer)
    (reached : registry.Reaches tree pointer) (chain : List Pointer) :
    Meaning.Agrees (registry.direct? chain) (other.direct? chain) pointer := by
  induction chain using registry.chain_induction generalizing pointer with
  | step chain ih =>
    refine ⟨fun unknown => ?_, fun content known => ?_⟩
    · rw [direct?_eq_none_iff, ← body?_eq_none_iff, same pointer reached] at unknown
      exact direct?_of_none unknown chain
    · obtain ⟨body, isBody, fresh, inside⟩ := direct?_ok_iff.mp known
      refine direct?_ok_iff.mpr ⟨body, same pointer reached ▸ isBody, fresh, ?_⟩
      -- what the body refers to is reached as well, and the chain is longer by the pointer
      refine expand_ok_of_agrees (fun next found => ?_) inside
      exact ih pointer (mem_pointers_of_body? isBody) fresh (reached.through isBody found)

end Registry

/-! ### Values of a document -/

variable {registry : Registry} {document : Tree}

theorem get?_completed {key : Scalar} (other : key ≠ "components") :
    (completed document).get? key = document.get? key := by
  cases document with
  | map entries =>
    show OrderedMap.get? (withComponents entries) key = OrderedMap.get? entries key
    rw [withComponents]
    split
    · rw [OrderedMap.get?_insert, if_neg other.symm]
    · rfl
  | _ => rfl

/-- What stands under a key of a document is resolved on its own, unless the document is itself a reference. -/
theorem get?_substituted (registered : registryOf document = .ok registry) (root : ¬ registry.Refers document)
    {resolved : Tree} (succeeded : substituted document = .ok resolved) {key : Scalar}
    (other : key ≠ "components") :
    (document.get? key = none ∧ resolved.get? key = none) ∨
      ∃ value partner, document.get? key = some value ∧ resolved.get? key = some partner ∧
        expand (registry.direct? []) value = .ok partner := by
  have stays := not_refers_completed registered root
  rw [← get?_completed other]
  rw [substituted, registered, ok_bind] at succeeded
  cases document with
  | map entries =>
    obtain ⟨results, rfl, matched⟩ := Registry.expand_of_not_refers stays succeeded
    exact matched.get?_cases key
  | _ => cases registered

/-! ### Two documents -/

variable {first second firstResolved secondResolved : Tree} {firstRegistry secondRegistry : Registry}

/-- Two registries have the same bodies for what a tree reaches, if the documents have the same at the address of
each component that is reached. -/
theorem body?_eq_of_address (apart : first.KeysApart) (registered : registryOf first = .ok firstRegistry)
    (apartOther : second.KeysApart) (registeredOther : registryOf second = .ok secondRegistry) {tree : Tree}
    (same : ∀ group key, firstRegistry.Reaches tree (componentPointer group key) →
      first.at? (address group key) = second.at? (address group key))
    {pointer : Pointer} (reached : firstRegistry.Reaches tree pointer) :
    firstRegistry.body? pointer = secondRegistry.body? pointer := by
  by_cases named : ∃ group key, pointer = componentPointer group key
  · obtain ⟨group, key, rfl⟩ := named
    rw [body?_componentPointer apart registered, body?_componentPointer apartOther registeredOther]
    exact same group key reached
  · -- any other text is the pointer of no component at all
    have absent {registry : Registry} {document : Tree} (apart : document.KeysApart)
        (registered : registryOf document = .ok registry) : registry.body? pointer = none := by
      by_contra known
      obtain ⟨body, found⟩ := Option.ne_none_iff_exists'.mp known
      obtain ⟨group, key, isPointer, _⟩ := exists_address_of_body? apart registered found
      exact named ⟨group, key, isPointer⟩
    rw [absent apart registered, absent apartOther registeredOther]

/-- **The resolved paths depend on what the paths reach alone.** Two documents that can be resolved and have the
same paths have the same paths afterwards, when the registries have the same bodies for all pointers that the
paths reach. They have, when at the address of each component that is reached the same stands in both documents,
whatever else stands there and in whichever order. -/
theorem resolved_paths_eq (registered : registryOf first = .ok firstRegistry)
    (root : ¬ firstRegistry.Refers first) (resolves : (resolveDocument first).outcome.1 = .ok firstResolved)
    (registeredOther : registryOf second = .ok secondRegistry) (rootOther : ¬ secondRegistry.Refers second)
    (resolvesOther : (resolveDocument second).outcome.1 = .ok secondResolved)
    (samePaths : first.get? "paths" = second.get? "paths") :
    ((∀ pointer, firstRegistry.Reaches (first.field "paths") pointer →
        firstRegistry.body? pointer = secondRegistry.body? pointer) →
      firstResolved.get? "paths" = secondResolved.get? "paths") ∧
    (first.KeysApart → second.KeysApart →
      (∀ group key, firstRegistry.Reaches (first.field "paths") (componentPointer group key) →
        first.at? (address group key) = second.at? (address group key)) →
      firstResolved.get? "paths" = secondResolved.get? "paths") := by
  have fromBodies (same : ∀ pointer, firstRegistry.Reaches (first.field "paths") pointer →
      firstRegistry.body? pointer = secondRegistry.body? pointer) :
      firstResolved.get? "paths" = secondResolved.get? "paths" := by
    have notComponents : Scalar.str "paths" ≠ "components" := by decide
    have atFirst := get?_substituted registered root (resolveDocument_ok_iff.mp resolves).1 notComponents
    have atSecond := get?_substituted registeredOther rootOther (resolveDocument_ok_iff.mp resolvesOther).1
      notComponents
    rw [← samePaths] at atSecond
    rcases atFirst with ⟨absent, none⟩ | ⟨paths, partner, given, becomes, expands⟩
    · rcases atSecond with ⟨_, noneOther⟩ | ⟨_, _, given, _⟩
      · rw [none, noneOther]
      · cases absent.symm.trans given
    · rcases atSecond with ⟨absent, _⟩ | ⟨_, partnerOther, givenOther, becomesOther, expandsOther⟩
      · cases absent.symm.trans given
      · cases given.symm.trans givenOther
        have isField : first.field "paths" = paths := by rw [Tree.field, given, Option.getD_some]
        rw [isField] at same
        have also := expand_ok_of_agrees (fun pointer found =>
          Registry.agrees_of_reaches same (.here found) []) expands
        rw [becomes, becomesOther, Except.ok.inj (also.symm.trans expandsOther)]
  refine ⟨fromBodies, fun apart apartOther same => fromBodies fun pointer reached => ?_⟩
  exact body?_eq_of_address apart registered apartOther registeredOther same reached

/-- A document with the given components whose paths refer to one of them. -/
def userDocument (components : Entries) : Tree :=
  .map [("components", .map components), ("paths", .map [("/users", user)])]
where
  user : Tree := .map [(refKey, .str "#/components/schemas/User")]
  userBody : Tree := .map [("home", .map [(refKey, .str "#/components/schemas/a~1b")])]
  place : Tree := .map [("type", .str "string")]
  userResolved : Tree := .map [("home", place)]

/-- Components of which two are reached. The names of the others start like one of these, or are what the other
is written as. -/
def userComponents : Entries :=
  [("schemas", .map [("User", userDocument.userBody), ("UserList", .map [("items", userDocument.user)]),
    ("a/b", userDocument.place), ("a~1b", .str "other")])]

/-- The same two components in another order among others. -/
def movedComponents : Entries :=
  [("responses", .map [("User", .list [])]), ("schemas", .map [("a/b", userDocument.place), ("Use", .null),
    ("User", userDocument.userBody), ("UserList", .map [])])]

/-- A group of components in a registry. -/
def Registry.ofBodies (group : String) (bodies : List (String × Tree)) : Registry :=
  bodies.map fun body => ⟨componentPointer group body.1, group, body.1, body.2⟩

/-- The registry of the first components. -/
def userRegistry : Registry :=
  .ofBodies "schemas" [("User", userDocument.userBody), ("UserList", .map [("items", userDocument.user)]),
    ("a/b", userDocument.place), ("a~1b", .str "other")]

/-- The registry of the components in another order. -/
def movedRegistry : Registry :=
  .ofBodies "responses" [("User", .list [])] ++ .ofBodies "schemas" [("a/b", userDocument.place), ("Use", .null),
    ("User", userDocument.userBody), ("UserList", .map [])]

/-- The paths reach two components. -/
theorem reached_of_userDocument {pointer : Pointer}
    (reaches : userRegistry.Reaches ((userDocument userComponents).field "paths") pointer) :
    pointer ∈ ["#/components/schemas/User", "#/components/schemas/a~1b"] :=
  reaches.mem_of_closed (by decide +kernel) (by decide +kernel)

theorem resolved_paths_of_movedComponents :
    ∃ resolved moved,
      registryOf (userDocument userComponents) = .ok userRegistry ∧
      ¬ userRegistry.Refers (userDocument userComponents) ∧
      (resolveDocument (userDocument userComponents)).outcome.1 = .ok resolved ∧
      registryOf (userDocument movedComponents) = .ok movedRegistry ∧
      ¬ movedRegistry.Refers (userDocument movedComponents) ∧
      (resolveDocument (userDocument movedComponents)).outcome.1 = .ok moved ∧
      (userDocument userComponents).get? "paths" = (userDocument movedComponents).get? "paths" ∧
      (userDocument userComponents).KeysApart ∧ (userDocument movedComponents).KeysApart ∧
      (∀ group key,
        userRegistry.Reaches ((userDocument userComponents).field "paths") (componentPointer group key) →
        (userDocument userComponents).at? (address group key) =
          (userDocument movedComponents).at? (address group key)) ∧
      resolved.get? "paths" = moved.get? "paths" := by
  have registered : registryOf (userDocument userComponents) = .ok userRegistry := rfl
  have root : ¬ userRegistry.Refers (userDocument userComponents) := by decide
  have resolves : (resolveDocument (userDocument userComponents)).outcome.1 = .ok (.map [
      ("components", .map [("schemas", .map [("User", userDocument.userResolved),
        ("UserList", .map [("items", userDocument.userResolved)]), ("a/b", userDocument.place),
        ("a~1b", .str "other")])]),
      ("paths", .map [("/users", userDocument.userResolved)])]) :=
    resolveDocument_ok_iff.mpr (by decide +kernel)
  have apart : (userDocument userComponents).KeysApart := by decide +kernel
  have registeredMoved : registryOf (userDocument movedComponents) = .ok movedRegistry := rfl
  have rootMoved : ¬ movedRegistry.Refers (userDocument movedComponents) := by decide
  have resolvesMoved : (resolveDocument (userDocument movedComponents)).outcome.1 = .ok (.map [
      ("components", .map [("responses", .map [("User", .list [])]),
        ("schemas", .map [("a/b", userDocument.place), ("Use", .null), ("User", userDocument.userResolved),
          ("UserList", .map [])])]),
      ("paths", .map [("/users", userDocument.userResolved)])]) :=
    resolveDocument_ok_iff.mpr (by decide +kernel)
  have apartMoved : (userDocument movedComponents).KeysApart := by decide +kernel
  have bodies : ∀ pointer ∈ ["#/components/schemas/User", "#/components/schemas/a~1b"],
      userRegistry.body? pointer = movedRegistry.body? pointer := by decide +kernel
  have same (group key : String)
      (reaches : userRegistry.Reaches ((userDocument userComponents).field "paths")
        (componentPointer group key)) :
      (userDocument userComponents).at? (address group key) =
        (userDocument movedComponents).at? (address group key) := by
    rw [← body?_componentPointer apart registered, ← body?_componentPointer apartMoved registeredMoved]
    exact bodies _ (reached_of_userDocument reaches)
  exact ⟨_, _, registered, root, resolves, registeredMoved, rootMoved, resolvesMoved, rfl, apart, apartMoved, same,
    (resolved_paths_eq registered root resolves registeredMoved rootMoved resolvesMoved rfl).2 apart apartMoved
      same⟩

end RouteCompiler
