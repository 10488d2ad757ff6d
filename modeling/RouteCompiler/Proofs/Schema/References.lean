/-
**Filtering adds no reference.**

A filter takes properties and names away and puts what is left back where it stood. It sets no key but those of
the parts of a schema, and under these it sets maps and lists, so no map becomes a reference that was none. This
holds for any number of levels, whether the filter is strict or not.

* `mem_occurrences_insert`: the references of a map in which a key has been set;
* `occurrences_pruneLevel`, `occurrences_filterLevels`: the levels;
* `occurrences_filterSchema`: schemas.
-/

import RouteCompiler.Proofs.Reference.Nodes
import RouteCompiler.Proofs.Schema.Level

namespace RouteCompiler

/-! ### Maps -/

/-- A reference of a map in which another key than `$ref` has been set is one of the new value or an old one. -/
theorem mem_occurrences_insert {entries : Entries} {key : Scalar} (other : key ≠ refKey) {value : Tree}
    {pointer : Pointer} (found : pointer ∈ occurrences (.map (OrderedMap.insert entries key value))) :
    pointer ∈ occurrences value ∨ pointer ∈ occurrences (.map entries) := by
  rcases mem_occurrences_map.mp found with here | ⟨entry, member, inEntry⟩
  · rw [reference?, OrderedMap.get?_insert, if_neg other] at here
    exact Or.inr (mem_occurrences_map.mpr (Or.inl here))
  · rcases OrderedMap.mem_insert_cases member with rfl | old
    · exact Or.inl inEntry
    · exact Or.inr (mem_occurrences_map.mpr (Or.inr ⟨entry, old, inEntry⟩))

/-- The references of a value are references of the map that it is found in. -/
theorem occurrences_subset_of_get? {entries : Entries} {key : Scalar} {value : Tree}
    (found : OrderedMap.get? entries key = some value) : occurrences value ⊆ occurrences (.map entries) :=
  occurrences_subset (Tree.maps_subset_of_mem (OrderedMap.mem_of_get?_eq_some found))

namespace Schema

variable {flag : Flag} {location : Location}

/-- A map of objects is no reference itself. -/
theorem AreObjects.mem_occurrences_iff {properties : Entries} (objects : AreObjects properties)
    {pointer : Pointer} : pointer ∈ occurrences (.map properties) ↔
      ∃ property ∈ properties, pointer ∈ occurrences property.2 := by
  refine mem_occurrences_map.trans (or_iff_right fun isReference => ?_)
  have member := OrderedMap.mem_of_get?_eq_some (reference?_eq_some_iff.mp isReference)
  obtain ⟨_, isMap⟩ := objects _ member
  cases isMap

/-! ### Levels -/

/-- The names that are kept are scalars. -/
theorem occurrences_keptNames {kept : Entries} {names result : List Tree}
    (succeeded : keptNames kept names = .ok result) : occurrences (.list result) = [] := by
  suffices scalars : ∀ name ∈ result, ∃ value, name = .scalar value by
    rw [List.eq_nil_iff_forall_not_mem]
    intro pointer found
    obtain ⟨name, member, inName⟩ := mem_occurrences_list.mp found
    obtain ⟨value, rfl⟩ := scalars name member
    cases inName
  induction names generalizing result with
  | nil =>
    cases succeeded
    exact nofun
  | cons first rest ih =>
    cases first with
    | scalar name =>
      obtain ⟨others, atRest, same⟩ := bind_ok_iff.mp succeeded
      cases same
      split
      · exact List.forall_mem_cons.mpr ⟨⟨name, rfl⟩, ih atRest⟩
      · exact ih atRest
    | _ =>
      rw [keptNames] at succeeded
      · split at succeeded
        · exact ih succeeded
        · cases succeeded
      · exact nofun

/-- What is kept of the properties of a level stands there. -/
theorem occurrences_unmarked {level properties : Entries}
    (found : OrderedMap.get? level propertiesKey = some (.map properties)) (objects : AreObjects properties) :
    occurrences (.map (unmarked flag properties)) ⊆ occurrences (.map level) := by
  intro pointer inKept
  obtain ⟨property, member, inProperty⟩ := (objects.unmarked flag).mem_occurrences_iff.mp inKept
  refine occurrences_subset_of_get? found (objects.mem_occurrences_iff.mpr ⟨property, ?_, inProperty⟩)
  exact List.mem_of_mem_filter member

theorem occurrences_withProperties {level kept pruned : Entries}
    (inside : occurrences (.map kept) ⊆ occurrences (.map level))
    (succeeded : withProperties location level kept = .ok pruned) :
    occurrences (.map pruned) ⊆ occurrences (.map level) := by
  have replaced : occurrences (.map (OrderedMap.insert level propertiesKey (.map kept))) ⊆
      occurrences (.map level) := by
    intro pointer found
    rcases mem_occurrences_insert (by decide) found with inKept | old
    · exact inside inKept
    · exact old
  unfold withProperties at succeeded
  split at succeeded
  · cases succeeded
    exact replaced
  · obtain ⟨names, atNames, same⟩ := bind_ok_iff.mp succeeded
    cases same
    intro pointer found
    rcases mem_occurrences_insert (by decide) found with inNames | old
    · rw [occurrences_keptNames atNames] at inNames
      cases inNames
    · exact replaced old
  · cases succeeded

/-- **A level that is pruned** has no reference that it did not have. -/
theorem occurrences_pruneLevel {level pruned kept : Entries}
    (succeeded : pruneLevel flag location level = .ok (pruned, kept)) :
    AreObjects kept ∧ occurrences (.map kept) ⊆ occurrences (.map level) ∧
      occurrences (.map pruned) ⊆ occurrences (.map level) := by
  obtain ⟨properties, found, objects, rfl, replaced⟩ := pruneLevel_ok_iff.mp succeeded
  have inside : occurrences (.map (unmarked flag properties)) ⊆ occurrences (.map level) :=
    occurrences_unmarked found objects
  exact ⟨objects.unmarked flag, inside, occurrences_withProperties inside replaced⟩

/-- The level that a property opens stands in the property. -/
theorem maps_opened? {property level : Entries} (opens : opened? property = some level) :
    (Tree.map level).maps ⊆ (Tree.map property).maps := by
  unfold opened? at opens
  split at opens
  · split at opens
    · rename_i items found
      split at opens
      · cases opens
        exact Tree.maps_subset_of_mem (OrderedMap.mem_of_get?_eq_some found)
      · cases opens
    · cases opens
  · split at opens
    · cases opens
      exact List.Subset.refl _
    · cases opens

theorem occurrences_filterNested {filter : Entries → Except Failure Entries}
    (below : ∀ level filtered, filter level = .ok filtered →
      occurrences (.map filtered) ⊆ occurrences (.map level))
    {property result : Entries} (succeeded : filterNested filter property = .ok result) :
    occurrences (.map result) ⊆ occurrences (.map property) := by
  rcases filterNested_ok_iff.mp succeeded with ⟨_, rfl⟩ | ⟨level, filtered, opens, atLevel, rfl⟩
  · exact List.Subset.refl _
  · have inside := List.Subset.trans (below level filtered atLevel) (occurrences_subset (maps_opened? opens))
    unfold withOpened
    split
    · intro pointer found
      rcases mem_occurrences_insert (by decide) found with inLevel | old
      · exact inside inLevel
      · exact old
    · exact inside

/-- **A level that is filtered with those below it** has no reference that it did not have. -/
theorem occurrences_filterLevels {below : Nat} {level result : Entries}
    (succeeded : filterLevels flag below location level = .ok result) :
    occurrences (.map result) ⊆ occurrences (.map level) := by
  induction below generalizing location level result with
  | zero =>
    obtain ⟨⟨pruned, kept⟩, atLevel, same⟩ := bind_ok_iff.mp succeeded
    cases same
    exact (occurrences_pruneLevel atLevel).2.2
  | succ below ih =>
    obtain ⟨pruned, kept, results, atLevel, atKept, rfl⟩ := filterLevels_succ_ok_iff.mp succeeded
    obtain ⟨objects, keptInside, prunedInside⟩ := occurrences_pruneLevel atLevel
    have matched := (filterBelow_ok_iff objects).mp atKept
    have resultObjects : AreObjects results := by
      intro entry member
      obtain ⟨_, _, _, _, filtered, _, isMap, _⟩ := exists_left_of_mem matched member
      exact ⟨filtered, isMap⟩
    intro pointer found
    rcases mem_occurrences_insert (by decide) found with inResults | old
    · obtain ⟨entry, member, inEntry⟩ := resultObjects.mem_occurrences_iff.mp inResults
      obtain ⟨source, inKept, _, property, filtered, isProperty, isFiltered, atProperty⟩ :=
        exists_left_of_mem matched member
      rw [isFiltered] at inEntry
      have inProperty := occurrences_filterNested (fun level filtered atLevel => by
        obtain ⟨place, _, atPlace⟩ := bind_ok_iff.mp atLevel
        exact ih atPlace) atProperty inEntry
      rw [← isProperty] at inProperty
      exact keptInside (objects.mem_occurrences_iff.mpr ⟨source, inKept, inProperty⟩)
    · exact prunedInside old

/-! ### Schemas -/

theorem occurrences_filterTarget {below : Nat} {strict : Bool} {target result : Entries} {events : List Event}
    (succeeded : ((filterTarget flag below strict location target).run events).1 = .ok result) :
    occurrences (.map result) ⊆ occurrences (.map target) := by
  unfold filterTarget at succeeded
  split at succeeded
  · exact occurrences_filterLevels succeeded
  · obtain ⟨unstructured, _, later⟩ := run_bind_ok_iff.mp succeeded
    split at later
    · cases later
      exact List.Subset.refl _
    · split at later
      · cases later
      · obtain ⟨_, _, same⟩ := run_bind_ok_iff.mp later
        cases same
        exact List.Subset.refl _

theorem occurrences_onTarget {change : Entries → Run Entries}
    (changes : ∀ target result events, ((change target).run events).1 = .ok result →
      occurrences (.map result) ⊆ occurrences (.map target))
    {schema result : Entries} {events : List Event}
    (succeeded : ((onTarget location schema change).run events).1 = .ok result) :
    occurrences (.map result) ⊆ occurrences (.map schema) := by
  unfold onTarget at succeeded
  split at succeeded
  · split at succeeded
    · rename_i items found
      obtain ⟨changed, atItems, same⟩ := run_bind_ok_iff.mp succeeded
      cases same
      intro pointer inResult
      rcases mem_occurrences_insert (by decide) inResult with inItems | old
      · exact occurrences_subset_of_get? found (changes items changed events atItems inItems)
      · exact old
    · cases succeeded
  · exact changes schema result events succeeded

/-- **Filtering adds no reference to a schema.** -/
theorem occurrences_filterSchema {depth : Option Int} {strict : Bool} {schema result : Tree}
    (succeeded : (filterSchema flag depth strict location schema).outcome.1 = .ok result) :
    occurrences result ⊆ occurrences schema := by
  unfold filterSchema Run.outcome at succeeded
  split at succeeded
  · cases schema with
    | map entries =>
      obtain ⟨_, _, later⟩ := run_bind_ok_iff.mp succeeded
      obtain ⟨filtered, atTarget, same⟩ := run_bind_ok_iff.mp later
      cases same
      exact occurrences_onTarget (fun target result events => occurrences_filterTarget) atTarget
    | _ => cases succeeded
  · cases succeeded
    exact List.nil_subset _

end Schema

end RouteCompiler
