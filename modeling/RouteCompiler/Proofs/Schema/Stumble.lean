/-
**Schemas that filtering stumbles over.**

Filtering asks of most parts of a schema whether they have their shape, and refuses those that have not. Of some it
does not ask: it looks for the type of a schema without properties, and for required names, where only values without
parts can be looked for. Over a container in their place it stumbles. No other part of a schema makes it stumble, if the
keys of the schema can be spelled.

* `OddType`, `stumbles_isUnstructured_iff`: the types;
* `stumbles_pruneLevel_iff`: the required names of a level;
* `LevelStumbles`, `stumbles_filterLevels_iff`: a level and those below it;
* `SchemaStumbles`, `stumbles_filterSchema_iff`: schemas.
-/

import RouteCompiler.Proofs.Reference.Keyed
import RouteCompiler.Proofs.Schema.Fault
import RouteCompiler.Proofs.Schema.References
import RouteCompiler.Proofs.Stumble

namespace RouteCompiler

/-- All keys of a tree can be spelled. -/
abbrev Tree.SpellableKeys (tree : Tree) : Prop :=
  tree.KeyedBy fun key => key.isSpellable = true

theorem Tree.TextKeyed.spellableKeys {tree : Tree} (textKeyed : tree.TextKeyed) : tree.SpellableKeys := by
  refine textKeyed.mono fun key isText => ?_
  obtain ⟨text, rfl⟩ := Scalar.isText_iff.mp isText
  rfl

namespace Schema

variable {flag : Flag} {location : Location}

/-! ### Types -/

/-- What cannot be looked for among the types: a container, sets apart. -/
def IsOdd (type : Tree) : Prop :=
  type.isComparable = false ∧ ∀ members, type ≠ .set members

/-- Types that cannot be told: a container that is no list, and a list with such a container or with another list in
it, before which there are types of values without parts alone. -/
inductive OddType : Tree → Prop
  /-- The type itself cannot be looked for. -/
  | alone {type : Tree} (odd : IsOdd type) (noList : ∀ types, type ≠ .list types) : OddType type
  /-- One of several types cannot be looked for. -/
  | listed {before after : List Tree} {type : Tree}
      (primitive : ∀ other ∈ before, ∃ name ∈ primitiveTypes, other = .scalar name) (odd : IsOdd type) :
      OddType (.list (before ++ type :: after))

theorem stumbles_isPrimitive_iff {type : Tree} : Stumbles (isPrimitive type) ↔ IsOdd type := by
  unfold isPrimitive IsOdd
  split
  · exact iff_of_false (Stumbles.not_ok _) fun odd => nomatch odd.1
  · exact iff_of_false (Stumbles.not_ok _) fun odd => odd.2 _ rfl
  · rename_i noScalar noSet
    split
    · rename_i comparable
      exact iff_of_false (Stumbles.not_ok _) fun odd => by simp [odd.1] at comparable
    · rename_i incomparable
      exact iff_of_true (.unexpected _) ⟨Bool.eq_false_iff.mpr incomparable, noSet⟩

theorem isPrimitive_ok_true_iff {type : Tree} :
    isPrimitive type = .ok true ↔ ∃ name ∈ primitiveTypes, type = .scalar name := by
  unfold isPrimitive
  split
  · rename_i name
    simp
  · simp
  · rename_i noScalar _
    refine iff_of_false ?_ fun ⟨name, _, same⟩ => noScalar name same
    split <;> nofun

/-- Several types are gone through as long as they are of values without parts. -/
theorem stumbles_areAllPrimitive_iff {types : List Tree} :
    Stumbles (areAllPrimitive types) ↔
      ∃ before type after, types = before ++ type :: after ∧
        (∀ other ∈ before, ∃ name ∈ primitiveTypes, other = .scalar name) ∧ IsOdd type := by
  induction types with
  | nil =>
    refine iff_of_false (Stumbles.not_ok _) ?_
    rintro ⟨before, type, after, split, _⟩
    cases before <;> cases split
  | cons first rest ih =>
    rw [areAllPrimitive, Stumbles.bind_iff, stumbles_isPrimitive_iff]
    constructor
    · rintro (odd | ⟨primitive, atFirst, later⟩)
      · exact ⟨[], first, rest, rfl, List.forall_mem_nil _, odd⟩
      · cases primitive with
        | false => exact absurd later (Stumbles.not_ok _)
        | true =>
          obtain ⟨before, type, after, rfl, primitive, odd⟩ := ih.mp later
          exact ⟨first :: before, type, after, rfl,
            List.forall_mem_cons.mpr ⟨isPrimitive_ok_true_iff.mp atFirst, primitive⟩, odd⟩
    · rintro ⟨before, type, after, split, primitive, odd⟩
      cases before with
      | nil =>
        cases split
        exact Or.inl odd
      | cons _ before =>
        cases split
        obtain ⟨atFirst, primitiveRest⟩ := List.forall_mem_cons.mp primitive
        refine Or.inr ⟨true, isPrimitive_ok_true_iff.mpr atFirst, ih.mpr ?_⟩
        exact ⟨before, type, after, rfl, primitiveRest, odd⟩

theorem oddType_list_iff {types : List Tree} : OddType (.list types) ↔ Stumbles (areAllPrimitive types) := by
  rw [stumbles_areAllPrimitive_iff]
  constructor
  · rintro (⟨_, noList⟩ | ⟨primitive, odd⟩)
    · exact absurd rfl (noList types)
    · exact ⟨_, _, _, rfl, primitive, odd⟩
  · rintro ⟨before, type, after, rfl, primitive, odd⟩
    exact .listed primitive odd

theorem oddType_iff_of_single {type : Tree} (single : ∀ types, type ≠ .list types) :
    OddType type ↔ Stumbles (isPrimitive type) := by
  rw [stumbles_isPrimitive_iff]
  constructor
  · rintro (⟨odd, _⟩ | _)
    · exact odd
    · exact absurd rfl (single _)
  · exact fun odd => .alone odd single

/-- **Whether a schema needs properties** cannot be told by an odd type, if it is not composed of others. -/
theorem stumbles_isUnstructured_iff {schema : Entries} :
    Stumbles (isUnstructured schema) ↔
      compositionKeys.any (OrderedMap.contains schema) = false ∧
        ∃ type, OrderedMap.get? schema typeKey = some type ∧ OddType type := by
  unfold isUnstructured
  split
  · rename_i composed
    exact iff_of_false (Stumbles.not_ok _) fun odd => by simp [odd.1] at composed
  · rename_i single
    rw [and_iff_right (Bool.eq_false_iff.mpr single)]
    split
    · rename_i absent
      refine iff_of_false (Stumbles.not_ok _) ?_
      rintro ⟨_, found, _⟩
      cases absent.symm.trans found
    · rename_i found
      rw [found]
      simp only [Option.some.injEq, exists_eq_left', oddType_list_iff]
      exact iff_of_false (Stumbles.not_ok _) (Stumbles.not_ok _)
    · rename_i found
      rw [found]
      simp only [Option.some.injEq, exists_eq_left', oddType_list_iff]
    · rename_i noList found
      rw [found]
      simp only [Option.some.injEq, exists_eq_left', oddType_iff_of_single noList]

/-! ### One level -/

/-- Required names are gone through to the end, or to the first that cannot be looked for. -/
theorem stumbles_keptNames_iff {kept : Entries} {names : List Tree} :
    Stumbles (keptNames kept names) ↔ ∃ name ∈ names, name.isComparable = false := by
  induction names with
  | nil =>
    refine iff_of_false (Stumbles.not_ok _) ?_
    rintro ⟨_, member, _⟩
    cases member
  | cons first rest ih =>
    rw [List.exists_mem_cons_iff, ← ih]
    cases first with
    | scalar name =>
      rw [keptNames, Stumbles.bind_pure_iff]
      exact (or_iff_right (by simp [Tree.isComparable])).symm
    | _ =>
      rw [keptNames]
      · split
        · rename_i comparable
          exact (or_iff_right (by simp [comparable])).symm
        · rename_i incomparable
          exact iff_of_true (.unexpected _) (Or.inl (Bool.eq_false_iff.mpr incomparable))
      · intro _ isScalar
        cases isScalar

theorem stumbles_withProperties_iff {level kept : Entries} (spelled : location.isSpellable = true) :
    Stumbles (withProperties location level kept) ↔
      ∃ names, OrderedMap.get? level requiredKey = some (.list names) ∧
        ∃ name ∈ names, name.isComparable = false := by
  unfold withProperties
  dsimp only
  split
  · rename_i absent
    refine iff_of_false (Stumbles.not_ok _) ?_
    rintro ⟨_, found, _⟩
    cases absent.symm.trans found
  · rename_i names found
    rw [Stumbles.bind_pure_iff, stumbles_keptNames_iff, found]
    simp only [Option.some.injEq, Tree.list.injEq, exists_eq_left']
  · rename_i other noList found
    refine iff_of_false (Stumbles.not_ofProblem rfl spelled) ?_
    rintro ⟨names, isList, _⟩
    exact noList names (Option.some.inj (found.symm.trans isList))

/-- Properties with names that can be spelled are no obstacle. -/
theorem not_stumbles_keptProperties {properties : Entries} (spelled : location.isSpellable = true)
    (names : ∀ entry ∈ properties, entry.1.isSpellable = true) :
    ¬ Stumbles (keptProperties flag location properties) := by
  induction properties with
  | nil => exact Stumbles.not_ok _
  | cons entry rest ih =>
    obtain ⟨name, value⟩ := entry
    obtain ⟨here, later⟩ := List.forall_mem_cons.mp names
    cases value with
    | map property =>
      rw [keptProperties, Stumbles.bind_pure_iff]
      exact ih later
    | _ =>
      rw [keptProperties]
      · exact Stumbles.not_ofProblem here spelled
      · intro _ isMap
        cases isMap

/-- **A level makes pruning stumble** by a required name that cannot be looked for, if its properties are objects. -/
theorem stumbles_pruneLevel_iff {level : Entries} (keys : (Tree.map level).SpellableKeys)
    (spelled : location.isSpellable = true) :
    Stumbles (pruneLevel flag location level) ↔
      ∃ properties names, OrderedMap.get? level propertiesKey = some (.map properties) ∧ AreObjects properties ∧
        OrderedMap.get? level requiredKey = some (.list names) ∧ ∃ name ∈ names, name.isComparable = false := by
  have atProperties : ¬ Stumbles (levelProperties flag location level) := by
    unfold levelProperties
    split
    · rename_i properties found
      have inside := keys.subset (Tree.maps_subset_of_mem (OrderedMap.mem_of_get?_eq_some found))
      exact not_stumbles_keptProperties spelled fun entry member =>
        (inside properties (Tree.self_mem_maps properties) entry member).1
    · exact Stumbles.not_ofProblem rfl spelled
  rw [pruneLevel, Stumbles.bind_iff, or_iff_right atProperties]
  simp only [Stumbles.bind_pure_iff, stumbles_withProperties_iff spelled]
  constructor
  · rintro ⟨kept, succeeded, names, listed, odd⟩
    unfold levelProperties at succeeded
    split at succeeded
    · rename_i properties found
      exact ⟨properties, names, found, (keptProperties_ok_iff.mp succeeded).1, listed, odd⟩
    · cases succeeded
  · rintro ⟨properties, names, found, objects, listed, odd⟩
    refine ⟨unmarked flag properties, ?_, names, listed, odd⟩
    rw [levelProperties, found]
    exact keptProperties_ok_iff.mpr ⟨objects, rfl⟩

/-! ### Levels below -/

/-- A level that makes filtering stumble, on the level itself or on one below it within the limit. -/
inductive LevelStumbles (flag : Flag) : (below : Nat) → Location → Entries → Prop
  /-- The properties are objects, and among the required names there is one that cannot be looked for. -/
  | required {below : Nat} {location : Location} {level properties : Entries} {names : List Tree}
      (given : OrderedMap.get? level propertiesKey = some (.map properties)) (objects : AreObjects properties)
      (listed : OrderedMap.get? level requiredKey = some (.list names))
      (odd : ∃ name ∈ names, name.isComparable = false) : LevelStumbles flag below location level
  /-- A property that is kept opens such a level. Those before it can be filtered. -/
  | property {below : Nat} {location inner : Location} {level pruned before after property nested : Entries}
      {name : Scalar}
      (prunes : pruneLevel flag location level = .ok (pruned, before ++ (name, .map property) :: after))
      (earlier : ∃ results, filterBelow (filterLevels flag below) location before = .ok results)
      (opens : opened? property = some nested) (place : propertyLocation location name = .ok inner)
      (stumbles : LevelStumbles flag below inner nested) : LevelStumbles flag (below + 1) location level

theorem exists_propertyLocation {name : Scalar} (spelled : location.isSpellable = true)
    (spellable : name.isSpellable = true) :
    ∃ inner, propertyLocation location name = .ok inner ∧ inner.isSpellable = true := by
  unfold propertyLocation
  split
  · have atLocation : location.spelled = .ok location.display := if_pos spelled
    have atName : name.spelled = .ok name.display := if_pos spellable
    exact ⟨_, by rw [atLocation, ok_bind, atName]; rfl, rfl⟩
  · exact ⟨name, rfl, spellable⟩

/-- The names of the properties that are kept are keys of the level, and so are those inside the properties. -/
theorem keyedBy_of_pruneLevel {sort : Scalar → Prop} {level pruned kept : Entries}
    (keyed : (Tree.map level).KeyedBy sort) (prunes : pruneLevel flag location level = .ok (pruned, kept)) :
    AreObjects kept ∧ ∀ entry ∈ kept, sort entry.1 ∧ entry.2.KeyedBy sort := by
  obtain ⟨properties, found, objects, rfl, _⟩ := pruneLevel_ok_iff.mp prunes
  have inside := (Tree.keyedBy_map_iff.mp keyed _ (OrderedMap.mem_of_get?_eq_some found)).2.keyed
  refine ⟨objects.unmarked flag, fun entry member => ?_⟩
  obtain ⟨ofSort, value⟩ := Tree.keyedBy_map_iff.mp inside entry (List.mem_of_mem_filter member)
  exact ⟨ofSort, value.keyed⟩

/-- Levels are gone through property by property. -/
theorem stumbles_filterBelow_iff {filter : Location → Entries → Except Failure Entries} {kept : Entries}
    (objects : AreObjects kept) :
    Stumbles (filterBelow filter location kept) ↔
      ∃ before name property after, kept = before ++ (name, .map property) :: after ∧
        (∃ results, filterBelow filter location before = .ok results) ∧
        ∃ nested, opened? property = some nested ∧ Stumbles (atProperty filter location name nested) := by
  have nestedStumbles (name : Scalar) (property : Entries) :
      Stumbles (filterNested (atProperty filter location name) property) ↔
        ∃ nested, opened? property = some nested ∧ Stumbles (atProperty filter location name nested) := by
    rw [filterNested_eq]
    cases opened? property with
    | none => exact iff_of_false (Stumbles.not_ok _) nofun
    | some nested =>
      dsimp only
      rw [Stumbles.bind_iff_left fun _ => Stumbles.not_ok _]
      simp
  induction kept with
  | nil =>
    refine iff_of_false (Stumbles.not_ok _) ?_
    rintro ⟨before, _, _, after, split, _⟩
    cases before <;> cases split
  | cons entry rest ih =>
    obtain ⟨name, value⟩ := entry
    obtain ⟨property, isMap⟩ := objects _ List.mem_cons_self
    cases isMap
    have ofRest : AreObjects rest := fun other member => objects other (List.mem_cons_of_mem _ member)
    rw [filterBelow, Stumbles.bind_iff, nestedStumbles]
    simp only [Stumbles.bind_pure_iff, ih ofRest]
    constructor
    · rintro (here | ⟨filtered, atFirst, before, other, nested, after, rfl, ⟨results, earlier⟩, later⟩)
      · exact ⟨[], name, property, rest, rfl, ⟨[], rfl⟩, here⟩
      · refine ⟨(name, .map property) :: before, other, nested, after, rfl, ⟨(name, .map filtered) :: results, ?_⟩,
          later⟩
        rw [filterBelow, atFirst, ok_bind, earlier]
        rfl
    · rintro ⟨before, other, nested, after, split, ⟨results, earlier⟩, later⟩
      cases before with
      | nil =>
        cases split
        exact Or.inl later
      | cons _ before =>
        cases split
        rw [filterBelow] at earlier
        obtain ⟨filtered, atFirst, others⟩ := bind_ok_iff.mp earlier
        obtain ⟨remaining, atRest, _⟩ := bind_ok_iff.mp others
        exact Or.inr ⟨filtered, atFirst, before, other, nested, after, rfl, ⟨remaining, atRest⟩, later⟩

/-- **Filtering a level with those below it** stumbles over the levels that make it stumble. -/
theorem stumbles_filterLevels_iff {below : Nat} {level : Entries} (keys : (Tree.map level).SpellableKeys)
    (spelled : location.isSpellable = true) :
    Stumbles (filterLevels flag below location level) ↔ LevelStumbles flag below location level := by
  induction below generalizing location level with
  | zero =>
    rw [filterLevels, Stumbles.bind_iff_left (by rintro ⟨pruned, _⟩; exact Stumbles.not_ok _),
      stumbles_pruneLevel_iff keys spelled]
    constructor
    · rintro ⟨properties, names, given, objects, listed, odd⟩
      exact .required given objects listed odd
    · rintro (⟨given, objects, listed, odd⟩ | _)
      exact ⟨_, _, given, objects, listed, odd⟩
  | succ below ih =>
    rw [filterLevels, Stumbles.bind_iff, stumbles_pruneLevel_iff keys spelled]
    have step {pruned before after property nested : Entries} {name : Scalar} {inner : Location}
        (prunes : pruneLevel flag location level = .ok (pruned, before ++ (name, .map property) :: after))
        (opens : opened? property = some nested) (place : propertyLocation location name = .ok inner) :
        Stumbles (atProperty (filterLevels flag below) location name nested) ↔
          LevelStumbles flag below inner nested := by
      obtain ⟨_, keyed⟩ := keyedBy_of_pruneLevel keys prunes
      obtain ⟨spellable, inProperty⟩ := keyed (name, .map property) (List.mem_append_right _ List.mem_cons_self)
      obtain ⟨_, same, spelledInner⟩ := exists_propertyLocation spelled spellable
      cases place.symm.trans same
      rw [atProperty, place, ok_bind]
      exact ih (inProperty.subset (maps_opened? opens)) spelledInner
    constructor
    · rintro (⟨properties, names, given, objects, listed, odd⟩ | ⟨⟨pruned, kept⟩, prunes, later⟩)
      · exact .required given objects listed odd
      · obtain ⟨objects, keyed⟩ := keyedBy_of_pruneLevel keys prunes
        dsimp only at later
        rw [Stumbles.bind_pure_iff, stumbles_filterBelow_iff objects] at later
        obtain ⟨before, name, property, after, rfl, earlier, nested, opens, atNested⟩ := later
        have spellable := (keyed (name, .map property) (List.mem_append_right _ List.mem_cons_self)).1
        obtain ⟨inner, place, _⟩ := exists_propertyLocation spelled spellable
        exact .property prunes earlier opens place ((step prunes opens place).mp atNested)
    · rintro (⟨given, objects, listed, odd⟩ | ⟨prunes, earlier, opens, place, stumbles⟩)
      · exact Or.inl ⟨_, _, given, objects, listed, odd⟩
      · refine Or.inr ⟨_, prunes, ?_⟩
        dsimp only
        rw [Stumbles.bind_pure_iff, stumbles_filterBelow_iff (keyedBy_of_pruneLevel keys prunes).1]
        exact ⟨_, _, _, _, rfl, earlier, _, opens, (step prunes opens place).mpr stumbles⟩

/-! ### Schemas -/

/-- The level that a schema opens: the schema itself, or the items of an array. -/
def target? (schema : Entries) : Option Entries :=
  if describesArray schema then
    match OrderedMap.get? schema itemsKey with
    | some (.map items) => some items
    | _ => none
  else some schema

theorem target?_of_items {schema items : Entries} (array : describesArray schema = true)
    (found : OrderedMap.get? schema itemsKey = some (.map items)) : target? schema = some items := by
  rw [target?, if_pos array, found]

theorem target?_of_no_items {schema : Entries} (array : describesArray schema = true)
    (noItems : ∀ items, OrderedMap.get? schema itemsKey ≠ some (.map items)) : target? schema = none := by
  rw [target?, if_pos array]
  split
  · rename_i items found
    exact absurd found (noItems items)
  · rfl

theorem target?_of_single {schema : Entries} (single : ¬ describesArray schema = true) :
    target? schema = some schema :=
  if_neg single

/-- A schema that makes filtering stumble. -/
inductive SchemaStumbles (flag : Flag) (depth : Option Int) (location : Location) : Tree → Prop
  /-- The level that it opens does, or one below it. -/
  | level {schema target : Entries} (opens : target? schema = some target)
      (stumbles : LevelStumbles flag (levelsBelow depth schema) location target) :
      SchemaStumbles flag depth location (.map schema)
  /-- The level has no properties and is not composed of other schemas, and its type cannot be told. -/
  | type {schema target : Entries} {type : Tree} (opens : target? schema = some target)
      (plain : OrderedMap.contains target propertiesKey = false)
      (single : compositionKeys.any (OrderedMap.contains target) = false)
      (given : OrderedMap.get? target typeKey = some type) (odd : OddType type) :
      SchemaStumbles flag depth location (.map schema)

theorem LevelStumbles.contains {below : Nat} {level : Entries} (stumbles : LevelStumbles flag below location level) :
    OrderedMap.contains level propertiesKey = true := by
  have found : ∃ properties, OrderedMap.get? level propertiesKey = some (.map properties) := by
    cases stumbles with
    | required given => exact ⟨_, given⟩
    | property prunes =>
      obtain ⟨properties, given, _⟩ := pruneLevel_ok_iff.mp prunes
      exact ⟨properties, given⟩
  obtain ⟨properties, given⟩ := found
  rw [OrderedMap.contains, given]
  rfl

theorem SchemaStumbles.isTruthy {depth : Option Int} {schema : Tree}
    (stumbles : SchemaStumbles flag depth location schema) : schema.isTruthy = true := by
  cases stumbles with
  | @level entries target opens stumbles =>
    cases entries with
    | nil =>
      cases opens
      cases stumbles.contains
    | cons entry rest => rfl
  | @type entries target type opens _ _ given _ =>
    cases entries with
    | nil =>
      cases opens
      cases given
    | cons entry rest => rfl

theorem stumbles_filterTarget_iff {below : Nat} {strict : Bool} {target : Entries}
    (keys : (Tree.map target).SpellableKeys) (spelled : location.isSpellable = true) :
    Stumbles (filterTarget flag below strict location target).outcome.1 ↔
      LevelStumbles flag below location target ∨
        (OrderedMap.contains target propertiesKey = false ∧
          compositionKeys.any (OrderedMap.contains target) = false ∧
          ∃ type, OrderedMap.get? target typeKey = some type ∧ OddType type) := by
  unfold filterTarget
  split
  · rename_i given
    refine Iff.trans ?_ (or_iff_left fun plain => by simp [given] at plain).symm
    exact stumbles_filterLevels_iff keys spelled
  · rename_i plain
    rw [or_iff_right fun stumbles => plain stumbles.contains, and_iff_right (Bool.eq_false_iff.mpr plain),
      ← stumbles_isUnstructured_iff, Run.outcome_bind]
    · refine Stumbles.bind_iff_left fun unstructured => ?_
      split
      · exact Stumbles.not_ok _
      · split
        · exact Stumbles.not_malformed _ _
        · exact Stumbles.not_ok _
    · intro unstructured
      split
      · exact .pure _
      · split
        · exact .throw _
        · exact .bind (.reportAll _) fun _ => .pure _

theorem stumbles_onTarget_iff {schema : Entries} {change : Entries → Run Entries} :
    Stumbles (onTarget location schema change).outcome.1 ↔
      ∃ target, target? schema = some target ∧ Stumbles (change target).outcome.1 := by
  unfold onTarget
  split
  · rename_i array
    split
    · rename_i items found
      rw [Stumbles.run_bind_pure_iff, target?_of_items array found]
      simp only [Option.some.injEq, exists_eq_left']
    · rename_i noItems
      rw [target?_of_no_items array noItems]
      refine iff_of_false (Stumbles.not_malformed _ _) ?_
      rintro ⟨_, none, _⟩
      cases none
  · rename_i single
    rw [target?_of_single single]
    simp only [Option.some.injEq, exists_eq_left']

/-- The level that a schema opens stands in the schema. -/
theorem maps_target? {schema target : Entries} (opens : target? schema = some target) :
    (Tree.map target).maps ⊆ (Tree.map schema).maps := by
  unfold target? at opens
  split at opens
  · split at opens
    · rename_i items found
      cases opens
      exact Tree.maps_subset_of_mem (OrderedMap.mem_of_get?_eq_some found)
    · cases opens
  · cases opens
    exact List.Subset.refl _

/-- **Filtering stumbles over the schemas that make it stumble**, whether it is strict or not. -/
theorem stumbles_filterSchema_iff {depth : Option Int} (allowed : ∀ d ∈ depth, 1 ≤ d) {strict : Bool}
    {schema : Tree} (keys : schema.SpellableKeys) (spelled : location.isSpellable = true) :
    Stumbles (filterSchema flag depth strict location schema).outcome.1 ↔
      SchemaStumbles flag depth location schema := by
  have entriesStumble {entries : Entries} (keys : (Tree.map entries).SpellableKeys) :
      Stumbles (onTarget location entries
        (filterTarget flag (levelsBelow depth entries) strict location)).outcome.1 ↔
        SchemaStumbles flag depth location (.map entries) := by
    rw [stumbles_onTarget_iff]
    constructor
    · rintro ⟨target, opens, stumbles⟩
      rcases (stumbles_filterTarget_iff (keys.subset (maps_target? opens)) spelled).mp stumbles with
        atLevel | ⟨plain, single, type, given, odd⟩
      · exact .level opens atLevel
      · exact .type opens plain single given odd
    · rintro (⟨opens, atLevel⟩ | ⟨opens, plain, single, given, odd⟩)
      · exact ⟨_, opens, (stumbles_filterTarget_iff (keys.subset (maps_target? opens)) spelled).mpr (.inl atLevel)⟩
      · exact ⟨_, opens, (stumbles_filterTarget_iff (keys.subset (maps_target? opens)) spelled).mpr
          (.inr ⟨plain, single, _, given, odd⟩)⟩
  have positive : checkDepth depth = pure () := by
    unfold checkDepth
    split
    · rfl
    · rename_i limit
      exact if_neg (Int.not_lt.mpr (allowed limit rfl))
  unfold filterSchema
  split
  · split
    · rw [positive, pure_bind, Stumbles.run_bind_pure_iff]
      exact entriesStumble keys
    · rename_i noMap
      refine iff_of_false (Stumbles.not_malformed _ _) ?_
      rintro (⟨_, _⟩ | _) <;> exact noMap _ rfl
  · rename_i absent
    exact iff_of_false (Stumbles.not_ok _) fun stumbles => absent stumbles.isTruthy

end Schema

end RouteCompiler
