/-
**What a filter leaves of a schema.**

A filter that succeeds computes a function of the schema alone: each of the first levels is restricted to its
properties without the flag, in each of which the level below it is filtered. It succeeds when each of these levels
can be filtered, and when the properties on the way can be spelled in a place.

* `atOpened`, `trimmed`: a level without the flagged properties, and the levels below it;
* `Admits`, `filterLevels_ok_iff`: what is asked of these levels, and filtering them;
* `Accepts`, `filterTarget_ok_iff`: the level of a schema;
* `Passes`, `filtered`, `filterSchema_ok_iff`: filtering a schema.
-/

import RouteCompiler.Proofs.Schema.Restriction
import RouteCompiler.Proofs.Schema.Stumble

namespace RouteCompiler.Schema

variable {flag : Flag} {location : Location}

/-! ### Levels below -/

/-- A tree with the level that it opens changed. -/
def atOpened (change : Entries → Entries) : Tree → Tree
  | .map schema =>
    match opened? schema with
    | some level => .map (withOpened schema (change level))
    | none => .map schema
  | other => other

theorem atOpened_of_some {change : Entries → Entries} {schema level : Entries} (opens : opened? schema = some level) :
    atOpened change (.map schema) = .map (withOpened schema (change level)) := by
  rw [atOpened, opens]

theorem atOpened_of_none {change : Entries → Entries} {schema : Entries} (opensNone : opened? schema = none) :
    atOpened change (.map schema) = .map schema := by
  rw [atOpened, opensNone]

/-- The level of a schema is the schema, or the items of an array. -/
theorem target?_cases {schema target : Entries} (opens : target? schema = some target) :
    (describesArray schema = true ∧ OrderedMap.get? schema itemsKey = some (.map target)) ∨
      (describesArray schema = false ∧ target = schema) := by
  unfold target? at opens
  split at opens
  · rename_i array
    split at opens
    · rename_i items found
      cases opens
      exact .inl ⟨array, found⟩
    · cases opens
  · rename_i single
    cases opens
    exact .inr ⟨Bool.eq_false_iff.mpr single, rfl⟩

/-- The level that a schema opens is its level, if that has properties. -/
theorem opened?_eq_some_iff {schema level : Entries} :
    opened? schema = some level ↔ target? schema = some level ∧ propertiesKey ∈ OrderedMap.keys level := by
  have ofTarget {target : Entries} :
      (if OrderedMap.contains target propertiesKey then some target else none) = some level ↔
        some target = some level ∧ propertiesKey ∈ OrderedMap.keys level := by
    rw [← OrderedMap.contains_iff]
    split
    · rename_i hasProperties
      refine (and_iff_left_of_imp ?_).symm
      rintro same
      cases same
      exact hasProperties
    · rename_i noProperties
      refine iff_of_false (Option.some_ne_none _).symm ?_
      rintro ⟨same, hasProperties⟩
      cases same
      exact noProperties hasProperties
  by_cases array : describesArray schema = true
  · by_cases noItems : ∀ items, OrderedMap.get? schema itemsKey ≠ some (.map items)
    · rw [opened?_of_no_items array noItems, target?_of_no_items array noItems]
      exact iff_of_false (Option.some_ne_none _).symm fun opens => (Option.some_ne_none _).symm opens.1
    · obtain ⟨items, found⟩ := not_forall_not.mp noItems
      rw [opened?_of_items array found, target?_of_items array found]
      exact ofTarget
  · rw [opened?_of_single (Bool.eq_false_iff.mpr array), target?_of_single array]
    exact ofTarget

/-- The level of a schema may be put in its own place. -/
theorem withOpened_target {schema target : Entries} (opens : target? schema = some target) :
    withOpened schema target = schema := by
  rcases target?_cases opens with ⟨array, found⟩ | ⟨single, rfl⟩
  · rw [withOpened, if_pos array]
    exact OrderedMap.insert_eq_self found
  · rw [withOpened, if_neg (by simp [single])]

/-- A schema stays one. -/
theorem exists_atOpened_map (change : Entries → Entries) (schema : Entries) :
    ∃ changed, atOpened change (.map schema) = .map changed := by
  cases opens : opened? schema with
  | none => exact ⟨_, atOpened_of_none opens⟩
  | some level => exact ⟨_, atOpened_of_some opens⟩

theorem atOpened_id : atOpened id = id := by
  funext tree
  cases tree with
  | map schema =>
    cases opens : opened? schema with
    | none => exact atOpened_of_none opens
    | some level => rw [atOpened_of_some opens, id, id, withOpened_target (opened?_eq_some_iff.mp opens).1]
  | _ => rfl

/-- A level and `levels - 1` levels below it without the flagged properties. What is no level stays. -/
def trimmed (flag : Flag) : (levels : Nat) → Entries → Entries
  | 0, level => level
  | levels + 1, level =>
    match OrderedMap.get? level propertiesKey with
    | some (.map properties) =>
      restricted level (OrderedMap.mapValues (atOpened (trimmed flag levels)) (unmarked flag properties))
    | _ => level

theorem trimmed_zero : trimmed flag 0 = id :=
  rfl

theorem trimmed_succ {levels : Nat} {level properties : Entries}
    (given : OrderedMap.get? level propertiesKey = some (.map properties)) :
    trimmed flag (levels + 1) level =
      restricted level (OrderedMap.mapValues (atOpened (trimmed flag levels)) (unmarked flag properties)) := by
  rw [trimmed, given]

/-- What filtering asks of a level and of `levels - 1` levels below it. -/
def Admits (flag : Flag) : (levels : Nat) → Location → Entries → Prop
  | 0, _, _ => True
  | levels + 1, location, level =>
    ∃ properties, IsLevel level properties ∧
      (levels ≠ 0 → ∀ name property nested, (name, .map property) ∈ unmarked flag properties →
        opened? property = some nested →
          ∃ inner, propertyLocation location name = .ok inner ∧ Admits flag levels inner nested)

section Below

variable {filter : Location → Entries → Except Failure Entries} {admits : Location → Entries → Prop}
  {change : Entries → Entries}

/-- A property is filtered where the level that it opens is. -/
theorem filterNested_atProperty_ok_iff
    (atLevel : ∀ place level result, filter place level = .ok result ↔ admits place level ∧ result = change level)
    {name : Scalar} {property result : Entries} :
    filterNested (atProperty filter location name) property = .ok result ↔
      (∀ nested, opened? property = some nested →
          ∃ inner, propertyLocation location name = .ok inner ∧ admits inner nested) ∧
        Tree.map result = atOpened change (.map property) := by
  rw [filterNested_ok_iff]
  cases opens : opened? property with
  | none =>
    rw [atOpened_of_none opens]
    simp
  | some nested =>
    rw [atOpened_of_some opens]
    simp only [reduceCtorEq, false_and, Option.some.injEq, false_or, exists_and_left, exists_eq_left', forall_eq',
      Tree.map.injEq]
    constructor
    · rintro ⟨filtered, atNested, rfl⟩
      obtain ⟨inner, place, atPlace⟩ := bind_ok_iff.mp atNested
      obtain ⟨admitted, rfl⟩ := (atLevel _ _ _).mp atPlace
      exact ⟨⟨inner, place, admitted⟩, rfl⟩
    · rintro ⟨⟨inner, place, admitted⟩, rfl⟩
      exact ⟨_, bind_ok_iff.mpr ⟨inner, place, (atLevel _ _ _).mpr ⟨admitted, rfl⟩⟩, rfl⟩

/-- Properties are filtered where each of them is. -/
theorem filterBelow_ok_iff_mapValues
    (atLevel : ∀ place level result, filter place level = .ok result ↔ admits place level ∧ result = change level)
    {kept results : Entries} (objects : AreObjects kept) :
    filterBelow filter location kept = .ok results ↔
      (∀ name property nested, (name, .map property) ∈ kept → opened? property = some nested →
          ∃ inner, propertyLocation location name = .ok inner ∧ admits inner nested) ∧
        results = OrderedMap.mapValues (atOpened change) kept := by
  induction kept generalizing results with
  | nil =>
    rw [filterBelow, Except.ok.injEq, and_iff_right fun _ _ _ member => absurd member List.not_mem_nil]
    exact eq_comm
  | cons entry rest ih =>
    obtain ⟨name, value⟩ := entry
    obtain ⟨property, isObject⟩ := objects _ List.mem_cons_self
    cases isObject
    have ofRest : AreObjects rest := fun other member => objects other (List.mem_cons_of_mem _ member)
    rw [filterBelow, bind_ok_iff]
    constructor
    · rintro ⟨filtered, atProperty, later⟩
      obtain ⟨others, atRest, same⟩ := bind_ok_iff.mp later
      obtain ⟨admitted, changed⟩ := (filterNested_atProperty_ok_iff atLevel).mp atProperty
      obtain ⟨admittedRest, rfl⟩ := (ih ofRest).mp atRest
      refine ⟨fun other nestedIn nested member opens => ?_, ?_⟩
      · rcases List.mem_cons.mp member with here | later
        · cases here
          exact admitted nested opens
        · exact admittedRest other nestedIn nested later opens
      · rw [← Except.ok.inj same, changed]
        rfl
    · rintro ⟨admitted, rfl⟩
      obtain ⟨filtered, changed⟩ := exists_atOpened_map change property
      have atRest : filterBelow filter location rest = .ok (OrderedMap.mapValues (atOpened change) rest) :=
        (ih ofRest).mpr ⟨fun other nestedIn nested member => admitted other nestedIn nested
          (List.mem_cons_of_mem _ member), rfl⟩
      refine ⟨filtered, (filterNested_atProperty_ok_iff atLevel).mpr ⟨?_, changed.symm⟩,
        bind_ok_iff.mpr ⟨_, atRest, ?_⟩⟩
      · exact fun nested opens => admitted name property nested List.mem_cons_self opens
      · rw [← changed]
        rfl

end Below

/-- **Filtering levels** computes a function of the first one, where the levels can be filtered. -/
theorem filterLevels_ok_iff {below : Nat} {level result : Entries} :
    filterLevels flag below location level = .ok result ↔
      Admits flag (below + 1) location level ∧ result = trimmed flag (below + 1) level := by
  induction below generalizing location level result with
  | zero =>
    -- nothing is asked of the levels below the last one, and to trim them by no level is to leave them
    rw [filterLevels, bind_ok_iff]
    constructor
    · rintro ⟨⟨pruned, kept⟩, prunes, same⟩
      cases same
      obtain ⟨properties, isLevel, rfl, rfl⟩ := pruneLevel_ok_iff_isLevel.mp prunes
      refine ⟨⟨properties, isLevel, fun below => absurd rfl below⟩, ?_⟩
      rw [trimmed_succ isLevel.given, trimmed_zero, atOpened_id, OrderedMap.mapValues_id]
    · rintro ⟨⟨properties, isLevel, _⟩, rfl⟩
      refine ⟨_, pruneLevel_ok_iff_isLevel.mpr ⟨properties, isLevel, rfl, rfl⟩, ?_⟩
      rw [trimmed_succ isLevel.given, trimmed_zero, atOpened_id, OrderedMap.mapValues_id]
      rfl
  | succ below ih =>
    have atLevel (place : Location) (level result : Entries) :
        filterLevels flag below place level = .ok result ↔
          Admits flag (below + 1) place level ∧ result = trimmed flag (below + 1) level := ih
    rw [filterLevels_succ_ok_iff]
    constructor
    · rintro ⟨pruned, kept, results, prunes, atKept, rfl⟩
      obtain ⟨properties, isLevel, rfl, rfl⟩ := pruneLevel_ok_iff_isLevel.mp prunes
      obtain ⟨admitted, rfl⟩ :=
        (filterBelow_ok_iff_mapValues atLevel (isLevel.objects.unmarked flag)).mp atKept
      refine ⟨⟨properties, isLevel, fun _ => admitted⟩, ?_⟩
      rw [trimmed_succ isLevel.given, insert_restricted (OrderedMap.keys_mapValues _ _)]
    · rintro ⟨⟨properties, isLevel, admitted⟩, rfl⟩
      refine ⟨_, _, _, pruneLevel_ok_iff_isLevel.mpr ⟨properties, isLevel, rfl, rfl⟩,
        (filterBelow_ok_iff_mapValues atLevel (isLevel.objects.unmarked flag)).mpr
          ⟨admitted below.succ_ne_zero, rfl⟩, ?_⟩
      rw [trimmed_succ isLevel.given, insert_restricted (OrderedMap.keys_mapValues _ _)]

/-- What is no level stays as it is. -/
theorem trimmed_of_no_properties {levels : Nat} {level : Entries}
    (noLevel : ¬ ∃ properties, OrderedMap.get? level propertiesKey = some (.map properties)) :
    trimmed flag levels level = level := by
  cases levels with
  | zero => rfl
  | succ levels =>
    rw [trimmed]
    split
    · rename_i properties found
      exact absurd ⟨properties, found⟩ noLevel
    · rfl

theorem trimmed_of_absent {levels : Nat} {level : Entries} (absent : propertiesKey ∉ OrderedMap.keys level) :
    trimmed flag levels level = level :=
  trimmed_of_no_properties fun ⟨_, found⟩ => absent (OrderedMap.mem_keys_of_get? found)

/-! ### Schemas -/

/-- What filtering asks of the level that a schema opens: that it can be filtered, or left as it is. -/
inductive Accepts (flag : Flag) (levels : Nat) (strict : Bool) (location : Location) (target : Entries) : Prop
  /-- It has properties, and it and the levels below it can be filtered. -/
  | level (given : propertiesKey ∈ OrderedMap.keys target) (admits : Admits flag levels location target)
  /-- It has no properties and needs none, or the filter is not strict. -/
  | plain {unstructured : Bool} (absent : propertiesKey ∉ OrderedMap.keys target)
      (told : isUnstructured target = .ok unstructured) (left : unstructured = true ∨ strict = false)

section Accepts

variable {levels others : Nat} {strict : Bool} {target : Entries}

theorem accepts_iff_admits (given : propertiesKey ∈ OrderedMap.keys target) :
    Accepts flag levels strict location target ↔ Admits flag levels location target := by
  refine ⟨?_, .level given⟩
  rintro (⟨_, admits⟩ | ⟨absent, _, _⟩)
  · exact admits
  · exact absurd given absent

/-- A level without properties is accepted for any number of levels. -/
theorem Accepts.of_absent (absent : propertiesKey ∉ OrderedMap.keys target)
    (accepts : Accepts flag levels strict location target) : Accepts flag others strict location target := by
  rcases accepts with ⟨given, _⟩ | ⟨_, told, left⟩
  · exact absurd given absent
  · exact .plain absent told left

end Accepts

theorem filterTarget_ok_iff {below : Nat} {strict : Bool} {target result : Entries} {events : List Event} :
    ((filterTarget flag below strict location target).run events).1 = .ok result ↔
      Accepts flag (below + 1) strict location target ∧ result = trimmed flag (below + 1) target := by
  unfold filterTarget
  split
  · rename_i hasProperties
    have given := (OrderedMap.contains_iff _ _).mp hasProperties
    rw [Run.run_ofExcept, filterLevels_ok_iff, accepts_iff_admits given]
  · rename_i noProperties
    have absent : propertiesKey ∉ OrderedMap.keys target := fun given =>
      noProperties ((OrderedMap.contains_iff _ _).mpr given)
    rw [trimmed_of_absent absent, run_bind_ok_iff]
    simp only [Run.run_ofExcept]
    constructor
    · rintro ⟨unstructured, told, later⟩
      split at later
      · rename_i needsNone
        cases later
        exact ⟨.plain absent told (.inl needsNone), rfl⟩
      · split at later
        · cases later
        · rename_i lenient
          cases later
          exact ⟨.plain absent told (.inr (Bool.eq_false_iff.mpr lenient)), rfl⟩
    · rintro ⟨⟨given, _⟩ | ⟨_, told, left⟩, rfl⟩
      · exact absurd given absent
      · refine ⟨_, told, ?_⟩
        rcases left with rfl | rfl
        · rfl
        · split <;> rfl

/-- A function of the level that a schema opens. -/
theorem onTarget_ok_iff {schema result : Entries} {change : Entries → Run Entries} {events : List Event} :
    ((onTarget location schema change).run events).1 = .ok result ↔
      ∃ target changed, target? schema = some target ∧ ((change target).run events).1 = .ok changed ∧
        result = withOpened schema changed := by
  unfold onTarget withOpened
  split
  · rename_i array
    split
    · rename_i items found
      rw [run_bind_ok_iff, target?_of_items array found]
      constructor
      · rintro ⟨changed, atItems, same⟩
        exact ⟨items, changed, rfl, atItems, (Except.ok.inj same).symm⟩
      · rintro ⟨_, changed, same, atItems, rfl⟩
        cases same
        exact ⟨changed, atItems, rfl⟩
    · rename_i noItems
      rw [target?_of_no_items array noItems]
      constructor
      · intro ended
        cases ended
      · rintro ⟨_, _, opens, _⟩
        cases opens
  · rename_i single
    rw [target?_of_single single]
    simp

theorem checkDepth_ok_iff {depth : Option Int} {events : List Event} :
    ((checkDepth depth).run events).1 = .ok () ↔ ∀ limit ∈ depth, 1 ≤ limit := by
  cases depth with
  | none => exact iff_of_true rfl nofun
  | some limit =>
    rw [checkDepth]
    split
    · rename_i low
      exact iff_of_false nofun fun allowed => by
        have := allowed limit rfl
        omega
    · rename_i high
      exact iff_of_true rfl fun _ same => by
        cases same
        omega

/-- How many levels of a schema a depth reaches. -/
def levelsOf (depth : Option Int) (schema : Entries) : Nat :=
  levelsBelow depth schema + 1

/-- What filtering asks of a schema. -/
inductive Passes (flag : Flag) (depth : Option Int) (strict : Bool) (location : Location) : Tree → Prop
  /-- There is none. -/
  | nothing {schema : Tree} (absent : schema.isTruthy = false) : Passes flag depth strict location schema
  /-- Its first level can be filtered down to the depth, or left as it is. -/
  | schema {schema target : Entries} (given : schema ≠ []) (allowed : ∀ limit ∈ depth, 1 ≤ limit)
      (opens : target? schema = some target)
      (accepts : Accepts flag (levelsOf depth schema) strict location target) :
      Passes flag depth strict location (.map schema)

theorem Passes.exists_map {depth : Option Int} {strict : Bool} {schema : Tree}
    (passes : Passes flag depth strict location schema) (given : schema.isTruthy = true) :
    ∃ entries, schema = .map entries := by
  cases passes with
  | nothing absent => cases absent.symm.trans given
  | schema => exact ⟨_, rfl⟩

/-- A schema without the flagged properties of its first levels. -/
def filtered (flag : Flag) (depth : Option Int) : Tree → Tree
  | .map schema => atOpened (trimmed flag (levelsOf depth schema)) (.map schema)
  | _ => .map []

/-- Where the level of a schema has no properties nothing changes. -/
theorem atOpened_trimmed_of_target {levels : Nat} {schema target : Entries} (opens : target? schema = some target) :
    atOpened (trimmed flag levels) (.map schema) = .map (withOpened schema (trimmed flag levels target)) := by
  by_cases given : propertiesKey ∈ OrderedMap.keys target
  · exact atOpened_of_some (opened?_eq_some_iff.mpr ⟨opens, given⟩)
  · have opensNone : opened? schema = none := by
      refine Option.eq_none_iff_forall_ne_some.mpr fun level opened => ?_
      obtain ⟨same, hasProperties⟩ := opened?_eq_some_iff.mp opened
      cases opens.symm.trans same
      exact given hasProperties
    rw [atOpened_of_none opensNone, trimmed_of_absent given, withOpened_target opens]

/-- **Filtering a schema** computes a function of it, where the schema passes. -/
theorem filterSchema_ok_iff {depth : Option Int} {strict : Bool} {schema result : Tree} :
    (filterSchema flag depth strict location schema).outcome.1 = .ok result ↔
      Passes flag depth strict location schema ∧ result = filtered flag depth schema := by
  unfold filterSchema Run.outcome
  split
  · rename_i given
    have ofMap {schema : Entries} (same : (Tree.map schema).isTruthy = true) : schema ≠ [] := by
      rintro rfl
      cases same
    cases schema with
    | map schema =>
      dsimp only
      simp only [run_bind_ok_iff, onTarget_ok_iff, filterTarget_ok_iff]
      constructor
      · rintro ⟨_, allowed, _, ⟨target, _, opens, ⟨accepts, rfl⟩, rfl⟩, same⟩
        refine ⟨.schema (ofMap given) (checkDepth_ok_iff.mp allowed) opens accepts, ?_⟩
        rw [filtered, atOpened_trimmed_of_target opens]
        exact (Except.ok.inj same).symm
      · rintro ⟨falsy | ⟨_, allowed, opens, accepts⟩, rfl⟩
        · cases falsy.symm.trans given
        · refine ⟨(), checkDepth_ok_iff.mpr allowed, _, ⟨_, _, opens, ⟨accepts, rfl⟩, rfl⟩, ?_⟩
          rw [filtered, atOpened_trimmed_of_target opens]
          rfl
    | _ =>
      constructor
      · intro ended
        cases ended
      · rintro ⟨passes, _⟩
        obtain ⟨_, isMap⟩ := passes.exists_map given
        cases isMap
  · rename_i absent
    have passes : Passes flag depth strict location schema := .nothing (Bool.eq_false_iff.mpr absent)
    have nothing : filtered flag depth schema = .map [] := by
      cases schema with
      | map schema =>
        cases schema with
        | nil => rfl
        | cons entry rest => exact absurd rfl absent
      | _ => rfl
    rw [and_iff_right passes, nothing]
    constructor
    · intro same
      exact (Except.ok.inj same).symm
    · rintro rfl
      rfl

end RouteCompiler.Schema
