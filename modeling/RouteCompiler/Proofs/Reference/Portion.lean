/-
**The paths of a document on their own.**

A document keeps its components when its paths are replaced by others, so the references in the paths stand for
the same, and those outside the paths are not concerned. Resolving a document therefore resolves the rest of it
and its paths, each on its own; and of paths that are put one after another, each is resolved on its own again.

* `Tree.withPaths`: a document with other paths;
* `reference?_append_iff`, `mem_occurrences_append`: the references of maps one after another;
* `refers_withPaths`, `registryOf_withPaths`: what other paths leave as it is;
* `Registry.Settles`: what a map is resolved to;
* `settles_append_iff`, `settles_insert_iff`: maps one after another, and a map in another one;
* `resolve_withPaths_iff`: a document and its paths.
-/

import RouteCompiler.Proofs.Reference.Reach

namespace RouteCompiler

/-- A document with other paths. -/
def Tree.withPaths (document : Tree) (paths : Entries) : Tree :=
  match document with
  | .map entries => .map (OrderedMap.insert entries "paths" (.map paths))
  | other => other

variable {registry : Registry} {document : Tree}

/-! ### References of a map -/

/-- A value under another key does not make a map a reference. -/
theorem reference?_insert (entries : Entries) {key : Scalar} (other : key ≠ refKey) (value : Tree) :
    reference? (OrderedMap.insert entries key value) = reference? entries := by
  rw [reference?, OrderedMap.get?_insert, if_neg other, reference?]

/-- A map has no references when it has none without one of its values, and there is none in that value. -/
theorem occurrences_insert_eq_nil {entries : Entries} {key : Scalar} {value : Tree} (other : key ≠ refKey)
    (inEntries : occurrences (.map entries) = []) (inValue : occurrences value = []) :
    occurrences (.map (OrderedMap.insert entries key value)) = [] := by
  refine List.eq_nil_iff_forall_not_mem.mpr fun pointer found => ?_
  have outside := List.eq_nil_iff_forall_not_mem.mp inEntries pointer
  rcases mem_occurrences_map.mp found with isReference | ⟨entry, member, inEntry⟩
  · rw [reference?_insert entries other] at isReference
    exact outside (mem_occurrences_map.mpr (Or.inl isReference))
  · rcases OrderedMap.mem_insert_cases member with rfl | old
    · exact List.eq_nil_iff_forall_not_mem.mp inValue pointer inEntry
    · exact outside (mem_occurrences_map.mpr (Or.inr ⟨entry, old, inEntry⟩))

theorem occurrences_of_get? {entries : Entries} {key : Scalar} {value : Tree}
    (given : OrderedMap.get? entries key = some value) (none : occurrences (.map entries) = []) :
    occurrences value = [] := by
  have inside := Tree.maps_subset_of_mem (OrderedMap.mem_of_get?_eq_some given)
  exact List.subset_nil.mp (none ▸ occurrences_subset inside)

section Append

variable {first second : Entries} (disjoint : ∀ key ∈ OrderedMap.keys first, key ∉ OrderedMap.keys second)
include disjoint

/-- Of two maps with different keys, at most one is a reference, and both together are that one. -/
theorem reference?_append_iff {pointer : Pointer} :
    reference? (first ++ second) = some pointer ↔
      reference? first = some pointer ∨ reference? second = some pointer := by
  rw [reference?, OrderedMap.get?_append]
  cases given : OrderedMap.get? first refKey with
  | none => simp [reference?, given]
  | some value =>
    have inFirst : refKey ∈ OrderedMap.keys first := by rw [← OrderedMap.get?_isSome_iff, given]; rfl
    have absent := (OrderedMap.get?_eq_none_iff second refKey).mpr (disjoint _ inFirst)
    simp [reference?, given, absent]

/-- The references of two maps with different keys are those of both together. -/
theorem mem_occurrences_append {pointer : Pointer} :
    pointer ∈ occurrences (.map (first ++ second)) ↔
      pointer ∈ occurrences (.map first) ∨ pointer ∈ occurrences (.map second) := by
  simp only [mem_occurrences_map, reference?_append_iff disjoint, List.mem_append, or_and_right, exists_or]
  exact or_or_or_comm

theorem Registry.refers_append_iff :
    registry.Refers (.map (first ++ second)) ↔
      registry.Refers (.map first) ∨ registry.Refers (.map second) := by
  simp only [Registry.Refers, Option.mem_def, reference?_append_iff disjoint, or_and_right, exists_or]

end Append

/-! ### Other paths -/

theorem Tree.withPaths_eq_self {paths : Entries} (given : document.get? "paths" = some (.map paths)) :
    document.withPaths paths = document := by
  cases document with
  | map entries => exact congrArg Tree.map (OrderedMap.insert_eq_self given)
  | _ => rfl

theorem refers_withPaths (paths : Entries) :
    registry.Refers (document.withPaths paths) ↔ registry.Refers document := by
  cases document with
  | map entries =>
    have other : Scalar.str "paths" ≠ refKey := by decide
    simp only [Tree.withPaths, Registry.Refers, reference?_insert entries other]
  | _ => rfl

/-- Components are added to a document beside its paths, whatever these are. -/
theorem withComponents_insert {entries : Entries} (present : Scalar.str "paths" ∈ OrderedMap.keys entries)
    (paths : Tree) :
    withComponents (OrderedMap.insert entries "paths" paths) =
      OrderedMap.insert (withComponents entries) "paths" paths := by
  have other : Scalar.str "paths" ≠ "components" := by decide
  unfold withComponents
  rw [OrderedMap.get?_insert, if_neg other]
  split
  · rw [OrderedMap.insert_comm other present]
  · rfl

theorem registryOf_withPaths {stated : Tree} (given : document.get? "paths" = some stated) (paths : Entries) :
    registryOf (document.withPaths paths) = registryOf document := by
  have other : Scalar.str "paths" ≠ "components" := by decide
  cases document with
  | map entries =>
    rw [Tree.withPaths, registryOf, withComponents_insert (OrderedMap.mem_keys_of_get? given), componentsOf,
      OrderedMap.get?_insert, if_neg other]
    rfl
  | _ => rfl

/-! ### Maps that settle -/

/-- A map is resolved to another one: every reference in it is replaced, and none remains. -/
structure Registry.Settles (registry : Registry) (entries results : Entries) : Prop where
  values : Entries.Matched (fun value result => expand (registry.direct? []) value = .ok result) entries results
  noReference : occurrences (.map results) = []

namespace Registry

/-- Maps with different keys settle one after another, each on its own. -/
theorem settles_append_iff {first second results : Entries}
    (disjoint : ∀ key ∈ OrderedMap.keys first, key ∉ OrderedMap.keys second) :
    registry.Settles (first ++ second) results ↔
      ∃ before after, registry.Settles first before ∧ registry.Settles second after ∧
        results = before ++ after := by
  have noReference {before after : Entries} (sameKeys : OrderedMap.keys before = OrderedMap.keys first)
      (sameKeysAfter : OrderedMap.keys after = OrderedMap.keys second) :
      occurrences (.map (before ++ after)) = [] ↔
        occurrences (.map before) = [] ∧ occurrences (.map after) = [] := by
    have apart : ∀ key ∈ OrderedMap.keys before, key ∉ OrderedMap.keys after := by
      rwa [sameKeys, sameKeysAfter]
    simp only [List.eq_nil_iff_forall_not_mem, mem_occurrences_append apart, not_or, forall_and]
  constructor
  · rintro ⟨values, none⟩
    obtain ⟨before, after, atFirst, atSecond, rfl⟩ := Entries.Matched.append_left_iff.mp values
    obtain ⟨noneBefore, noneAfter⟩ := (noReference atFirst.keys_eq atSecond.keys_eq).mp none
    exact ⟨before, after, ⟨atFirst, noneBefore⟩, ⟨atSecond, noneAfter⟩, rfl⟩
  · rintro ⟨before, after, ⟨atFirst, noneBefore⟩, ⟨atSecond, noneAfter⟩, rfl⟩
    exact ⟨Entries.Matched.append_left_iff.mpr ⟨before, after, atFirst, atSecond, rfl⟩,
      (noReference atFirst.keys_eq atSecond.keys_eq).mpr ⟨noneBefore, noneAfter⟩⟩

/-- A map settles with a map in it, when it settles without it and so does the one in it. -/
theorem settles_insert_iff {entries inner results : Entries} {key : Scalar} (other : key ≠ refKey)
    (stays : ¬ registry.Refers (.map inner)) :
    registry.Settles (OrderedMap.insert entries key (.map inner)) results ↔
      ∃ rest innerResults, registry.Settles (OrderedMap.insert entries key (.map [])) rest ∧
        registry.Settles inner innerResults ∧ results = OrderedMap.insert rest key (.map innerResults) := by
  have blank : expand (registry.direct? []) (.map []) = .ok (.map []) := rfl
  constructor
  · rintro ⟨values, none⟩
    obtain ⟨rest, partner, elsewhere, atKey, rfl⟩ := (Entries.Matched.insert_left_iff blank).mp values
    obtain ⟨innerResults, rfl, inside⟩ := (expand_map_iff stays).mp atKey
    have emptied : OrderedMap.get? rest key = some (.map []) := by
      obtain ⟨_, found, same⟩ := elsewhere.get?_right (OrderedMap.get?_insert_self entries key (.map []))
      rw [found, ← Except.ok.inj (blank.symm.trans same)]
    have noneRest : occurrences (.map rest) = [] := by
      have inserted := occurrences_insert_eq_nil other none (show occurrences (.map []) = [] from rfl)
      rwa [OrderedMap.insert_insert, OrderedMap.insert_eq_self emptied] at inserted
    refine ⟨rest, innerResults, ⟨elsewhere, noneRest⟩, ⟨inside, ?_⟩, rfl⟩
    exact occurrences_of_get? (OrderedMap.get?_insert_self rest key _) none
  · rintro ⟨rest, innerResults, ⟨elsewhere, noneRest⟩, ⟨inside, noneInner⟩, rfl⟩
    have atKey := (expand_map_iff stays).mpr ⟨innerResults, rfl, inside⟩
    exact ⟨(Entries.Matched.insert_left_iff blank).mpr ⟨rest, _, elsewhere, atKey, rfl⟩,
      occurrences_insert_eq_nil other noneRest noneInner⟩

end Registry

/-! ### A document and its paths -/

/-- A document that is no reference is resolved when it settles. -/
theorem resolve_iff_settles {entries : Entries} (registered : registryOf (.map entries) = .ok registry)
    (root : ¬ registry.Refers (.map entries)) {resolved : Tree} :
    (resolveDocument (.map entries)).outcome.1 = .ok resolved ↔
      ∃ results, resolved = .map results ∧ registry.Settles (withComponents entries) results := by
  have stays : ¬ registry.Refers (.map (withComponents entries)) := not_refers_completed registered root
  rw [resolveDocument_ok_iff, substituted, registered, ok_bind, Registry.resolveDirect, completed,
    Registry.expand_map_iff stays]
  constructor
  · rintro ⟨⟨results, rfl, values⟩, none⟩
    exact ⟨results, rfl, values, none⟩
  · rintro ⟨results, rfl, values, none⟩
    exact ⟨⟨results, rfl, values⟩, none⟩

/-- **A document is resolved when the rest of it is and its paths are**, each on its own. -/
theorem resolve_withPaths_iff {stated : Tree} (given : document.get? "paths" = some stated)
    (registered : registryOf document = .ok registry) (root : ¬ registry.Refers document) {paths : Entries}
    (stays : ¬ registry.Refers (.map paths)) {resolved : Tree} :
    (resolveDocument (document.withPaths paths)).outcome.1 = .ok resolved ↔
      ∃ rest results, (resolveDocument (document.withPaths [])).outcome.1 = .ok (.map rest) ∧
        registry.Settles paths results ∧ resolved = (Tree.map rest).withPaths results := by
  have registers (paths : Entries) := (registryOf_withPaths given paths).trans registered
  have unreferred (paths : Entries) := mt (refers_withPaths paths).mp root
  cases document with
  | map entries =>
    have present := OrderedMap.mem_keys_of_get? given
    have other : Scalar.str "paths" ≠ refKey := by decide
    simp only [Tree.withPaths, resolve_iff_settles (registers _) (unreferred _), withComponents_insert present,
      Registry.settles_insert_iff other stays, Tree.map.injEq, exists_eq_left']
    constructor
    · rintro ⟨_, rfl, rest, results, elsewhere, inside, rfl⟩
      exact ⟨rest, results, elsewhere, inside, rfl⟩
    · rintro ⟨rest, results, elsewhere, inside, rfl⟩
      exact ⟨_, rfl, rest, results, elsewhere, inside, rfl⟩
  | _ => cases registered

end RouteCompiler
