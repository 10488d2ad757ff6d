/-
**Filtering without a limit.**

A filter without a limit goes as many levels down as a schema is high, and every property is lower than the
level that it stands on. So the limit is never reached, and what becomes of a property
does not depend on how many levels are left: it is said by a relation between schemas alone.

* `Sifts`: a schema and what becomes of it as a property;
* `height_lt_of_get?`, `height_property_lt`: a part of a schema is lower;
* `filterLevels_sifts`: a level whose levels below are all filtered;
* `Sifts.get?_eq`, `Sifts.properties`, `Sifts.items`: what becomes of the parts of a schema;
* `sifts_of_onTarget`, `sifts_of_filterSchema`: what becomes of a schema that is accepted.
-/

import RouteCompiler.Proofs.Schema.Level

namespace RouteCompiler.Schema

variable {flag : Flag} {location : Location}

/-- A schema and what becomes of it as a property, where all levels below are filtered. -/
inductive Sifts (flag : Flag) : Tree → Tree → Prop
  /-- There are as many levels left as the schema is high. -/
  | filtered {schema result : Entries} {below : Nat} {location : Location}
      (deep : (Tree.map schema).height ≤ below)
      (succeeded : filterNested (filterLevels flag below location) schema = .ok result) :
      Sifts flag (.map schema) (.map result)

theorem Sifts.of_opened_none {schema : Entries} (opensNone : opened? schema = none) :
    Sifts flag (.map schema) (.map schema) := by
  have stays : filterNested (filterLevels flag (Tree.map schema).height .null) schema = .ok schema :=
    filterNested_ok_iff.mpr (Or.inl ⟨opensNone, rfl⟩)
  exact .filtered (Nat.le_refl _) stays

theorem Sifts.of_opened_some {schema level filtered : Entries} {below : Nat}
    (opens : opened? schema = some level) (deep : (Tree.map schema).height ≤ below)
    (succeeded : filterLevels flag below location level = .ok filtered) :
    Sifts flag (.map schema) (.map (withOpened schema filtered)) :=
  .filtered deep (filterNested_ok_iff.mpr (Or.inr ⟨level, filtered, opens, succeeded, rfl⟩))

/-! ### Heights -/

theorem height_lt_of_get? {schema : Entries} {key : Scalar} {value : Tree}
    (found : OrderedMap.get? schema key = some value) : value.height < (Tree.map schema).height := by
  rw [Tree.height]
  exact Nat.lt_succ_of_le (Tree.height_le_heightEntries (OrderedMap.mem_of_get?_eq_some found))

/-- A property is lower than the level that it stands on. -/
theorem height_property_lt {level properties : Entries} {name : Scalar} {property : Tree}
    (found : OrderedMap.get? level propertiesKey = some (.map properties))
    (member : (name, property) ∈ properties) : property.height < (Tree.map level).height := by
  have inProperties : property.height < (Tree.map properties).height := by
    rw [Tree.height]
    exact Nat.lt_succ_of_le (Tree.height_le_heightEntries member)
  exact Nat.lt_trans inProperties (height_lt_of_get? found)

/-! ### Levels -/

/-- The place at which a property is filtered does not matter for what it becomes. -/
theorem filterNested_atProperty {below : Nat} {name : Scalar} {property result : Entries}
    (succeeded : filterNested (atProperty (filterLevels flag below) location name) property = .ok result) :
    ∃ place, filterNested (filterLevels flag below place) property = .ok result := by
  rcases filterNested_ok_iff.mp succeeded with ⟨opensNone, rfl⟩ | ⟨level, filtered, opens, atLevel, rfl⟩
  · exact ⟨location, filterNested_ok_iff.mpr (Or.inl ⟨opensNone, rfl⟩)⟩
  · obtain ⟨place, _, atPlace⟩ := bind_ok_iff.mp atLevel
    exact ⟨place, filterNested_ok_iff.mpr (Or.inr ⟨level, filtered, opens, atPlace, rfl⟩)⟩

/-- **A level whose levels below are all filtered**: its properties without a flag become what each of them
becomes by itself, and nothing else changes but the required names. -/
theorem filterLevels_sifts {below : Nat} {level result : Entries}
    (deep : (Tree.map level).height ≤ below)
    (succeeded : filterLevels flag below location level = .ok result) :
    (∃ properties results, OrderedMap.get? level propertiesKey = some (.map properties) ∧
        OrderedMap.get? result propertiesKey = some (.map results) ∧
        Entries.Matched (Sifts flag) (unmarked flag properties) results) ∧
      ∀ key, key ≠ propertiesKey → key ≠ requiredKey →
        OrderedMap.get? result key = OrderedMap.get? level key := by
  cases below with
  | zero =>
    -- a map is not of height zero
    rw [Tree.height] at deep
    omega
  | succ below =>
    obtain ⟨pruned, kept, results, atLevel, atKept, rfl⟩ := filterLevels_succ_ok_iff.mp succeeded
    obtain ⟨properties, found, objects, rfl, replaced⟩ := pruneLevel_ok_iff.mp atLevel
    obtain ⟨_, others⟩ := get?_withProperties replaced
    refine ⟨⟨properties, results, found, by rw [OrderedMap.get?_insert, if_pos rfl], ?_⟩, ?_⟩
    · refine forall₂_imp_of_mem (fun entry member partner related => ?_)
        ((filterBelow_ok_iff (objects.unmarked flag)).mp atKept)
      obtain ⟨sameName, property, filtered, isObject, isFiltered, atProperty⟩ := related
      obtain ⟨place, atPlace⟩ := filterNested_atProperty atProperty
      have lower := height_property_lt found (List.mem_of_mem_filter member)
      rw [isObject] at lower
      rw [isObject, isFiltered]
      exact ⟨sameName, .filtered (by omega) atPlace⟩
    · intro key notProperties notRequired
      rw [OrderedMap.get?_insert, if_neg notProperties.symm, others key notProperties notRequired]

/-! ### Schemas -/

namespace Sifts

variable {schema result : Entries}

/-- Only schemas that are objects become something. -/
theorem exists_maps {first second : Tree} (sifts : Sifts flag first second) :
    ∃ schema result, first = .map schema ∧ second = .map result := by
  obtain ⟨deep, succeeded⟩ := sifts
  exact ⟨_, _, rfl, rfl⟩

/-- What is neither a part of a schema nor its required names stays as it is. -/
theorem get?_eq (sifts : Sifts flag (.map schema) (.map result)) {key : Scalar}
    (notProperties : key ≠ propertiesKey) (notRequired : key ≠ requiredKey) (notItems : key ≠ itemsKey) :
    OrderedMap.get? result key = OrderedMap.get? schema key := by
  obtain ⟨deep, succeeded⟩ := sifts
  rcases filterNested_ok_iff.mp succeeded with ⟨_, rfl⟩ | ⟨level, filtered, opens, atLevel, rfl⟩
  · rfl
  · unfold opened? at opens
    unfold withOpened
    split
    · rw [OrderedMap.get?_insert, if_neg notItems.symm]
    · rename_i single
      rw [if_neg single] at opens
      split at opens
      · cases opens
        exact (filterLevels_sifts deep atLevel).2 key notProperties notRequired
      · cases opens

theorem describesArray_eq (sifts : Sifts flag (.map schema) (.map result)) :
    describesArray result = describesArray schema := by
  rw [describesArray, sifts.get?_eq (by decide) (by decide) (by decide), describesArray]

theorem reserves_eq {first second : Tree} (sifts : Sifts flag first second) :
    flag.reserves second = flag.reserves first := by
  cases sifts with
  | filtered deep succeeded =>
    have same := get?_eq (.filtered deep succeeded) (flag.key_ne_part (by decide))
      (flag.key_ne_part (by decide)) (flag.key_ne_part (by decide))
    rw [Flag.reserves, Flag.reserves, Flag.marks, Flag.marks, same]

/-- **The properties of a schema that is no array**: those without a flag are kept, and each becomes what it
becomes by itself. -/
theorem properties (sifts : Sifts flag (.map schema) (.map result))
    (single : describesArray schema = false) :
    (OrderedMap.get? schema propertiesKey = none ∧ result = schema) ∨
      ∃ properties results, OrderedMap.get? schema propertiesKey = some (.map properties) ∧
        OrderedMap.get? result propertiesKey = some (.map results) ∧
        Entries.Matched (Sifts flag) (unmarked flag properties) results := by
  obtain ⟨deep, succeeded⟩ := sifts
  rcases filterNested_ok_iff.mp succeeded with ⟨opensNone, rfl⟩ | ⟨level, filtered, opens, atLevel, rfl⟩
  · rw [opened?_of_single single] at opensNone
    split at opensNone
    · cases opensNone
    · rename_i absent
      refine Or.inl ⟨?_, rfl⟩
      rw [OrderedMap.get?_eq_none_iff, ← OrderedMap.contains_iff]
      exact absent
  · rw [opened?_of_single single] at opens
    split at opens
    · cases opens
      rw [withOpened, if_neg (by simp [single])]
      exact Or.inr (filterLevels_sifts deep atLevel).1
    · cases opens

/-- **The items of an array** become what they become by themselves, or they are an array in turn, whose own
items stay as they are. -/
theorem items (sifts : Sifts flag (.map schema) (.map result)) (array : describesArray schema = true) :
    (OrderedMap.get? result itemsKey = OrderedMap.get? schema itemsKey ∧
        ∀ inner, OrderedMap.get? schema itemsKey ≠ some (.map inner)) ∨
      ∃ inner filtered, OrderedMap.get? schema itemsKey = some (.map inner) ∧
        OrderedMap.get? result itemsKey = some (.map filtered) ∧
        ((describesArray inner = false ∧ Sifts flag (.map inner) (.map filtered)) ∨
          (describesArray inner = true ∧ describesArray filtered = true ∧
            OrderedMap.get? filtered itemsKey = OrderedMap.get? inner itemsKey)) := by
  obtain ⟨deep, succeeded⟩ := sifts
  by_cases noItems : ∀ inner, OrderedMap.get? schema itemsKey ≠ some (.map inner)
  · rcases filterNested_ok_iff.mp succeeded with ⟨_, rfl⟩ | ⟨level, filtered, opens, atLevel, rfl⟩
    · exact Or.inl ⟨rfl, noItems⟩
    · rw [opened?_of_no_items array noItems] at opens
      cases opens
  · obtain ⟨inner, found⟩ := not_forall_not.mp noItems
    have lower := height_lt_of_get? found
    refine Or.inr ⟨inner, ?_⟩
    rcases filterNested_ok_iff.mp succeeded with ⟨opensNone, rfl⟩ | ⟨level, filtered, opens, atLevel, rfl⟩
    · rw [opened?_of_items array found] at opensNone
      refine ⟨inner, found, found, ?_⟩
      cases isArray : describesArray inner with
      | true => exact Or.inr ⟨rfl, rfl, rfl⟩
      | false =>
        have opensNothing : opened? inner = none := by
          rw [opened?_of_single isArray]
          exact opensNone
        exact Or.inl ⟨rfl, .of_opened_none opensNothing⟩
    · rw [opened?_of_items array found] at opens
      split at opens
      · rename_i hasProperties
        cases opens
        rw [withOpened, if_pos array]
        refine ⟨filtered, found, by rw [OrderedMap.get?_insert, if_pos rfl], ?_⟩
        have innerDeep : (Tree.map inner).height ≤ _ := Nat.le_trans (Nat.le_of_lt lower) deep
        cases isArray : describesArray inner with
        | true =>
          have others := (filterLevels_sifts innerDeep atLevel).2
          refine Or.inr ⟨rfl, ?_, others itemsKey (by decide) (by decide)⟩
          rw [describesArray, others typeKey (by decide) (by decide)]
          exact isArray
        | false =>
          have opensItself : opened? inner = some inner := by
            rw [opened?_of_single isArray, if_pos hasProperties]
          have sifted := Sifts.of_opened_some opensItself innerDeep atLevel
          rw [withOpened, if_neg (by simp [isArray])] at sifted
          exact Or.inl ⟨rfl, sifted⟩
      · cases opens

end Sifts

/-! ### The whole schema -/

/-- A strict filter leaves a first level alone only where there are no properties. -/
theorem filterTarget_strict_ok {below : Nat} {target result : Entries} {events : List Event}
    (succeeded : ((filterTarget flag below true location target).run events).1 = .ok result) :
    (OrderedMap.contains target propertiesKey = true ∧ filterLevels flag below location target = .ok result) ∨
      (OrderedMap.contains target propertiesKey = false ∧ result = target) := by
  unfold filterTarget at succeeded
  split at succeeded
  · rename_i hasProperties
    exact Or.inl ⟨hasProperties, succeeded⟩
  · rename_i noProperties
    obtain ⟨unstructured, _, later⟩ := run_bind_ok_iff.mp succeeded
    split at later
    · cases later
      exact Or.inr ⟨Bool.eq_false_iff.mpr noProperties, rfl⟩
    · cases later

/-- **A schema whose first level a strict filter accepts** becomes what it becomes as a property. -/
theorem sifts_of_onTarget {schema result : Entries} {below : Nat} {events : List Event}
    (deep : (Tree.map schema).height ≤ below)
    (succeeded : ((onTarget location schema (filterTarget flag below true location)).run events).1 =
      .ok result) : Sifts flag (.map schema) (.map result) := by
  unfold onTarget at succeeded
  split at succeeded
  · rename_i array
    split at succeeded
    · rename_i items found
      obtain ⟨level, atItems, same⟩ := run_bind_ok_iff.mp succeeded
      cases same
      rcases filterTarget_strict_ok atItems with ⟨hasProperties, atLevel⟩ | ⟨noProperties, rfl⟩
      · have opens : opened? schema = some items := by
          rw [opened?_of_items array found, if_pos hasProperties]
        have sifted := Sifts.of_opened_some opens deep atLevel
        rw [withOpened, if_pos array] at sifted
        exact sifted
      · rw [OrderedMap.insert_eq_self found]
        exact .of_opened_none (by rw [opened?_of_items array found, if_neg (by simp [noProperties])])
    · cases succeeded
  · rename_i notArray
    have single := Bool.eq_false_iff.mpr notArray
    rcases filterTarget_strict_ok succeeded with ⟨hasProperties, atLevel⟩ | ⟨noProperties, rfl⟩
    · have opens : opened? schema = some schema := by
        rw [opened?_of_single single, if_pos hasProperties]
      have sifted := Sifts.of_opened_some opens deep atLevel
      rw [withOpened, if_neg notArray] at sifted
      exact sifted
    · exact .of_opened_none (by rw [opened?_of_single single, if_neg (by simp [noProperties])])

/-- What is accepted is a schema, or it counts as none. -/
theorem sifts_of_filterSchema {schema result : Tree}
    (accepted : (filterSchema flag none true location schema).outcome.1 = .ok result) :
    Sifts flag schema result ∨ ((∀ entries, schema ≠ .map entries) ∧ result = .map []) := by
  unfold filterSchema Run.outcome at accepted
  split at accepted
  · cases schema with
    | map entries =>
      obtain ⟨_, _, later⟩ := run_bind_ok_iff.mp accepted
      obtain ⟨filtered, atTarget, same⟩ := run_bind_ok_iff.mp later
      cases same
      exact Or.inl (sifts_of_onTarget (Nat.le_refl _) atTarget)
    | _ => cases accepted
  · rename_i notGiven
    cases accepted
    cases schema with
    | map entries =>
      cases entries with
      | nil => exact Or.inl (.of_opened_none rfl)
      | cons entry rest => exact absurd rfl notGiven
    | _ => exact Or.inr ⟨nofun, rfl⟩

end RouteCompiler.Schema
