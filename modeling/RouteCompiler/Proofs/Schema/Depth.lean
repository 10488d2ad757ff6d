/-
**Filtering at one depth and then at another.**

The levels that are left by a filter open each other as before, and what a filter at some depth leaves on its last
level below is as it was. So a second filter finds nothing more to do on the levels that both reach, and on the others
it finds what a single filter would: two depths come to the greater of them. The same holds for what is asked of the
levels. Where there is no limit all levels are reached, and any number of levels that is high enough will do.

* `trimmed_trimmed`, `admits_trimmed_iff`: some levels and then others;
* `Reaches`, `trimmed_eq_of_height_le`, `filtered_of_reaches`, `passes_of_reaches`: enough levels for a depth;
* `deeper`, `filtered_filtered`, `passes_filtered_iff`: one depth and then another;
* `filterSchema_deeper`: filters that follow each other.
-/

import RouteCompiler.Proofs.Schema.Trim
import RouteCompiler.Proofs.Schema.Unlimited

namespace RouteCompiler.Schema

variable {flag : Flag} {location : Location}

/-! ### What trimming keeps -/

theorem get?_trimmed_of_ne {levels : Nat} {level : Entries} {key : Scalar} (notProperties : key ≠ propertiesKey)
    (notRequired : key ≠ requiredKey) :
    OrderedMap.get? (trimmed flag levels level) key = OrderedMap.get? level key := by
  cases levels with
  | zero => rfl
  | succ levels =>
    rw [trimmed]
    split
    · exact get?_restricted_of_ne notProperties notRequired
    · rfl

theorem keys_trimmed (levels : Nat) (level : Entries) :
    OrderedMap.keys (trimmed flag levels level) = OrderedMap.keys level := by
  cases levels with
  | zero => rfl
  | succ levels =>
    rw [trimmed]
    split
    · rename_i properties given
      exact keys_restricted (OrderedMap.mem_keys_of_get? given)
    · rfl

/-- A schema asks for the level that is put in the place of its own, if that describes an array no more and no less. -/
theorem target?_withOpened {schema target changed : Entries} (opens : target? schema = some target)
    (sameType : OrderedMap.get? changed typeKey = OrderedMap.get? target typeKey) :
    target? (withOpened schema changed) = some changed := by
  rcases target?_cases opens with ⟨array, _⟩ | ⟨single, rfl⟩
  · rw [withOpened, if_pos array]
    refine target?_of_items ?_ (OrderedMap.get?_insert_self _ _ _)
    rw [describesArray, OrderedMap.get?_insert, if_neg (by decide)]
    exact array
  · rw [withOpened, if_neg (by simp [single])]
    refine target?_of_single ?_
    rw [describesArray, sameType]
    exact Bool.eq_false_iff.mp single

theorem withOpened_withOpened {schema target changed : Entries} (opens : target? schema = some target)
    (sameType : OrderedMap.get? changed typeKey = OrderedMap.get? target typeKey) (later : Entries) :
    withOpened (withOpened schema changed) later = withOpened schema later := by
  rcases target?_cases opens with ⟨array, _⟩ | ⟨single, rfl⟩
  · have stillArray : describesArray (OrderedMap.insert schema itemsKey (.map changed)) = true := by
      rw [describesArray, OrderedMap.get?_insert, if_neg (by decide)]
      exact array
    simp only [withOpened, array, if_true, stillArray]
    exact OrderedMap.insert_insert _ _ _ _
  · have stillSingle : describesArray changed = false := by
      rw [describesArray, sameType]
      exact single
    simp only [withOpened, single, stillSingle, Bool.false_eq_true, if_false]

/-- A change of levels that leaves types and properties where they are. -/
def KeepsLevels (change : Entries → Entries) : Prop :=
  ∀ level, OrderedMap.get? (change level) typeKey = OrderedMap.get? level typeKey ∧
    OrderedMap.keys (change level) = OrderedMap.keys level

theorem keepsLevels_trimmed (flag : Flag) (levels : Nat) : KeepsLevels (trimmed flag levels) :=
  fun level => ⟨get?_trimmed_of_ne (by decide) (by decide), keys_trimmed levels level⟩

/-- The level that a schema opens after a change is the changed one. -/
theorem opened?_withOpened {change : Entries → Entries} (keeps : KeepsLevels change) {schema level : Entries}
    (opens : opened? schema = some level) : opened? (withOpened schema (change level)) = some (change level) := by
  obtain ⟨opensTarget, given⟩ := opened?_eq_some_iff.mp opens
  obtain ⟨sameType, sameKeys⟩ := keeps level
  exact opened?_eq_some_iff.mpr ⟨target?_withOpened opensTarget sameType, sameKeys ▸ given⟩

/-- Two changes of the level that a tree opens are one. -/
theorem atOpened_atOpened {first second : Entries → Entries} (keeps : KeepsLevels first) :
    atOpened second ∘ atOpened first = atOpened (second ∘ first) := by
  funext tree
  cases tree with
  | map schema =>
    cases opens : opened? schema with
    | none =>
      rw [Function.comp_apply, atOpened_of_none opens, atOpened_of_none opens, atOpened_of_none opens]
    | some level =>
      have opensTarget := (opened?_eq_some_iff.mp opens).1
      rw [Function.comp_apply, atOpened_of_some opens, atOpened_of_some (opened?_withOpened keeps opens),
        atOpened_of_some opens, withOpened_withOpened opensTarget (keeps level).1, Function.comp_apply]
  | _ => rfl

/-- A property that is trimmed has a flag no more and no less, be it the flag of what is trimmed or another. -/
theorem reserves_atOpened_trimmed (other : Flag) (levels : Nat) (tree : Tree) :
    other.reserves (atOpened (trimmed flag levels) tree) = other.reserves tree := by
  cases tree with
  | map schema =>
    cases opens : opened? schema with
    | none => rw [atOpened_of_none opens]
    | some level =>
      have sameFlag : OrderedMap.get? (withOpened schema (trimmed flag levels level)) other.key =
          OrderedMap.get? schema other.key := by
        rcases target?_cases (opened?_eq_some_iff.mp opens).1 with ⟨array, _⟩ | ⟨single, rfl⟩
        · rw [withOpened, if_pos array, OrderedMap.get?_insert, if_neg (other.key_ne_part (by decide)).symm]
        · rw [withOpened, if_neg (by simp [single])]
          exact get?_trimmed_of_ne (other.key_ne_part (by decide)) (other.key_ne_part (by decide))
      rw [atOpened_of_some opens, Flag.reserves, Flag.reserves, Flag.marks, Flag.marks, sameFlag]
  | _ => rfl

/-- Properties are told by a flag before they are trimmed as well as after. -/
theorem unmarked_mapValues_trimmed (other : Flag) (levels : Nat) (properties : Entries) :
    unmarked other (OrderedMap.mapValues (atOpened (trimmed flag levels)) properties) =
      OrderedMap.mapValues (atOpened (trimmed flag levels)) (unmarked other properties) := by
  rw [unmarked, OrderedMap.mapValues, List.filter_map]
  congr 1
  refine List.filter_congr fun entry _ => ?_
  rw [Function.comp_apply, reserves_atOpened_trimmed]

/-- What remains of a level has no flagged properties. -/
theorem unmarked_remaining (levels : Nat) (properties : Entries) :
    unmarked flag (OrderedMap.mapValues (atOpened (trimmed flag levels)) (unmarked flag properties)) =
      OrderedMap.mapValues (atOpened (trimmed flag levels)) (unmarked flag properties) := by
  rw [unmarked_mapValues_trimmed, unmarked, unmarked, List.filter_filter]
  simp only [Bool.and_self]

/-! ### Some levels and then others -/

/-- **Some levels and then others** are as many levels as the more of them. -/
theorem trimmed_trimmed (first second : Nat) (level : Entries) :
    trimmed flag second (trimmed flag first level) = trimmed flag (max first second) level := by
  induction first generalizing second level with
  | zero => rw [Nat.zero_max]; rfl
  | succ first ih =>
    cases second with
    | zero => rw [Nat.max_zero]; rfl
    | succ second =>
      have twice : trimmed flag second ∘ trimmed flag first = trimmed flag (max first second) := by
        funext level
        exact ih second level
      rw [Nat.add_max_add_right]
      by_cases given : ∃ properties, OrderedMap.get? level propertiesKey = some (.map properties)
      · obtain ⟨properties, given⟩ := given
        rw [trimmed_succ given, trimmed_succ (get?_restricted_properties _ _), trimmed_succ given,
          unmarked_remaining, OrderedMap.mapValues_mapValues, atOpened_atOpened (keepsLevels_trimmed flag first),
          twice]
        refine restricted_restricted ?_
        rw [OrderedMap.keys_mapValues, OrderedMap.keys_mapValues]
        exact List.Subset.refl _
      · rw [trimmed_of_no_properties given, trimmed_of_no_properties given, trimmed_of_no_properties given]

/-- A property that opens a level once it is trimmed opened one before. -/
theorem exists_of_mem_remaining {levels : Nat} {properties : Entries} (objects : AreObjects properties) {name : Scalar}
    {property nested : Entries}
    (member : (name, .map property) ∈ OrderedMap.mapValues (atOpened (trimmed flag levels)) properties)
    (opens : opened? property = some nested) :
    ∃ original level, (name, .map original) ∈ properties ∧ opened? original = some level ∧
      nested = trimmed flag levels level := by
  obtain ⟨⟨name, value⟩, isProperty, same⟩ := List.mem_map.mp member
  obtain ⟨original, isObject⟩ := objects _ isProperty
  cases isObject
  rw [Prod.mk.injEq] at same
  obtain ⟨rfl, changed⟩ := same
  cases opensOriginal : opened? original with
  | none =>
    rw [atOpened_of_none opensOriginal] at changed
    cases changed
    cases opensOriginal.symm.trans opens
  | some level =>
    rw [atOpened_of_some opensOriginal] at changed
    cases changed
    rw [opened?_withOpened (keepsLevels_trimmed flag levels) opensOriginal] at opens
    exact ⟨original, level, isProperty, opensOriginal, (Option.some.inj opens).symm⟩

theorem AreObjects.mapValues_atOpened {properties : Entries} (objects : AreObjects properties)
    (change : Entries → Entries) : AreObjects (OrderedMap.mapValues (atOpened change) properties) := by
  intro entry member
  obtain ⟨⟨name, value⟩, isProperty, rfl⟩ := List.mem_map.mp member
  obtain ⟨property, isObject⟩ := objects _ isProperty
  cases isObject
  exact exists_atOpened_map change property

/-- Two filters that go on to the level of a property spell it in one place, where both accept the level. -/
theorem exists_admits_both {first second : Nat} {name : Scalar} {nested : Entries}
    (atFirst : first ≠ 0 → ∃ inner, propertyLocation location name = .ok inner ∧ Admits flag first inner nested)
    (atSecond : second ≠ 0 → ∃ inner, propertyLocation location name = .ok inner ∧
      Admits flag second inner (trimmed flag first nested))
    (some : max first second ≠ 0) :
    ∃ inner, propertyLocation location name = .ok inner ∧ Admits flag first inner nested ∧
      Admits flag second inner (trimmed flag first nested) := by
  by_cases stops : first = 0
  · subst stops
    obtain ⟨inner, place, admits⟩ := atSecond (by omega)
    exact ⟨inner, place, trivial, admits⟩
  · obtain ⟨inner, place, admits⟩ := atFirst stops
    by_cases stopsAgain : second = 0
    · subst stopsAgain
      exact ⟨inner, place, admits, trivial⟩
    · obtain ⟨other, samePlace, admitsAgain⟩ := atSecond stopsAgain
      cases place.symm.trans samePlace
      exact ⟨inner, place, admits, admitsAgain⟩

/-- **What is asked for some levels and then for others** is what is asked for as many levels as the more of them. -/
theorem admits_trimmed_iff {first second : Nat} {level : Entries} :
    Admits flag first location level ∧ Admits flag second location (trimmed flag first level) ↔
      Admits flag (max first second) location level := by
  induction first generalizing second location level with
  | zero =>
    rw [Nat.zero_max]
    exact and_iff_right trivial
  | succ first ih =>
    cases second with
    | zero =>
      rw [Nat.max_zero]
      exact and_iff_left trivial
    | succ second =>
      rw [Nat.add_max_add_right]
      constructor
      · rintro ⟨⟨properties, isLevel, atFirst⟩, remaining, isRemaining, atSecond⟩
        rw [trimmed_succ isLevel.given] at isRemaining
        cases (get?_restricted_properties _ _).symm.trans isRemaining.given
        rw [unmarked_remaining] at atSecond
        refine ⟨properties, isLevel, fun some name property nested member opens => ?_⟩
        -- the second filter meets the property with the level below it trimmed by the first one
        have inRemaining : (name, .map (withOpened property (trimmed flag first nested))) ∈
            OrderedMap.mapValues (atOpened (trimmed flag first)) (unmarked flag properties) :=
          List.mem_map.mpr ⟨_, member, by rw [atOpened_of_some opens]⟩
        have opensRemaining := opened?_withOpened (keepsLevels_trimmed flag first) opens
        obtain ⟨inner, place, admits⟩ := exists_admits_both
          (fun goesOn => atFirst goesOn name property nested member opens)
          (fun goesOn => atSecond goesOn name _ _ inRemaining opensRemaining) some
        exact ⟨inner, place, ih.mp admits⟩
      · rintro ⟨properties, isLevel, atBoth⟩
        refine ⟨⟨properties, isLevel, fun some name property nested member opens => ?_⟩, ?_⟩
        · obtain ⟨inner, place, admits⟩ := atBoth (by omega) name property nested member opens
          exact ⟨inner, place, (ih.mpr admits).1⟩
        · rw [trimmed_succ isLevel.given]
          have objects := isLevel.objects.unmarked flag
          refine ⟨_, isLevel.restricted (objects.mapValues_atOpened _), fun some name property nested member opens => ?_⟩
          rw [unmarked_remaining] at member
          obtain ⟨original, level, isProperty, opensOriginal, rfl⟩ := exists_of_mem_remaining objects member opens
          obtain ⟨inner, place, admits⟩ := atBoth (by omega) name original level isProperty opensOriginal
          exact ⟨inner, place, (ih.mpr admits).2⟩

/-! ### Enough levels -/

/-- The level of a schema is no higher than the schema. -/
theorem height_target_le {schema target : Entries} (opens : target? schema = some target) :
    (Tree.map target).height ≤ (Tree.map schema).height := by
  rcases target?_cases opens with ⟨_, found⟩ | ⟨_, rfl⟩
  · exact Nat.le_of_lt (height_lt_of_get? found)
  · exact Nat.le_refl _

/-- Below as many levels as a level is high there is nothing. -/
theorem trimmed_succ_of_height_le {levels : Nat} {level : Entries} (deep : (Tree.map level).height ≤ levels) :
    trimmed flag (levels + 1) level = trimmed flag levels level := by
  induction levels generalizing level with
  | zero =>
    rw [Tree.height] at deep
    omega
  | succ levels ih =>
    rw [trimmed, trimmed]
    split
    · rename_i properties given
      congr 1
      refine List.map_congr_left fun entry member => ?_
      obtain ⟨name, property⟩ := entry
      have lower := height_property_lt given (List.mem_of_mem_filter member)
      cases property with
      | map property =>
        cases opens : opened? property with
        | none => rw [atOpened_of_none opens, atOpened_of_none opens]
        | some nested =>
          have notHigher := height_target_le (opened?_eq_some_iff.mp opens).1
          rw [atOpened_of_some opens, atOpened_of_some opens, ih (by omega)]
      | _ => rfl
    · rfl

theorem trimmed_eq_of_height_le {first second : Nat} {level : Entries} (deep : (Tree.map level).height ≤ first)
    (more : first ≤ second) : trimmed flag second level = trimmed flag first level := by
  induction more with
  | refl => rfl
  | step further ih => exact (trimmed_succ_of_height_le (Nat.le_trans deep further)).trans ih

theorem admits_succ_of_height_le {levels : Nat} {level : Entries} (deep : (Tree.map level).height ≤ levels) :
    Admits flag (levels + 1) location level ↔ Admits flag levels location level := by
  induction levels generalizing location level with
  | zero =>
    rw [Tree.height] at deep
    omega
  | succ levels ih =>
    rw [Admits, Admits]
    refine exists_congr fun properties => and_congr_right fun isLevel => ?_
    have atProperties (name : Scalar) (property nested : Entries)
        (member : (name, .map property) ∈ unmarked flag properties) (opens : opened? property = some nested)
        (inner : Location) : Admits flag (levels + 1) inner nested ↔ Admits flag levels inner nested := by
      have lower := height_property_lt isLevel.given (List.mem_of_mem_filter member)
      have notHigher := height_target_le (opened?_eq_some_iff.mp opens).1
      exact ih (by omega)
    constructor
    · intro admits _ name property nested member opens
      obtain ⟨inner, place, atInner⟩ := admits (by omega) name property nested member opens
      exact ⟨inner, place, (atProperties name property nested member opens inner).mp atInner⟩
    · intro admits _ name property nested member opens
      have some : levels ≠ 0 := by
        have lower := height_property_lt isLevel.given (List.mem_of_mem_filter member)
        rw [Tree.height] at lower
        omega
      obtain ⟨inner, place, atInner⟩ := admits some name property nested member opens
      exact ⟨inner, place, (atProperties name property nested member opens inner).mpr atInner⟩

theorem admits_iff_of_height_le {first second : Nat} {level : Entries} (deep : (Tree.map level).height ≤ first)
    (more : first ≤ second) : Admits flag second location level ↔ Admits flag first location level := by
  induction more with
  | refl => rfl
  | step further ih => exact (admits_succ_of_height_le (Nat.le_trans deep further)).trans ih

/-- Enough levels of a schema for a depth: as many as it says, or as many as the schema is high. -/
def Reaches (depth : Option Int) (schema : Entries) (levels : Nat) : Prop :=
  match depth with
  | some limit => levels = (limit - 1).toNat + 1
  | none => (Tree.map schema).height ≤ levels

theorem reaches_levelsOf (depth : Option Int) (schema : Entries) : Reaches depth schema (levelsOf depth schema) := by
  cases depth with
  | some limit => rfl
  | none => exact Nat.le_succ _

section Reached

variable {depth : Option Int} {schema target : Entries} {levels : Nat}

/-- Levels that are enough are as many as a filter takes, or both are as many as the schema is high. -/
theorem Reaches.cases (reaches : Reaches depth schema levels) :
    levels = levelsOf depth schema ∨
      ((Tree.map schema).height ≤ levels ∧ (Tree.map schema).height ≤ levelsOf depth schema) := by
  cases depth with
  | some limit => exact .inl reaches
  | none => exact .inr ⟨reaches, Nat.le_succ _⟩

theorem trimmed_of_reaches (reaches : Reaches depth schema levels) (opens : target? schema = some target) :
    trimmed flag (levelsOf depth schema) target = trimmed flag levels target := by
  rcases reaches.cases with rfl | ⟨deep, alsoDeep⟩
  · rfl
  · have notHigher := height_target_le opens
    rw [trimmed_eq_of_height_le (Nat.le_refl _) (Nat.le_trans notHigher alsoDeep),
      trimmed_eq_of_height_le (Nat.le_refl _) (Nat.le_trans notHigher deep)]

theorem admits_of_reaches (reaches : Reaches depth schema levels) (opens : target? schema = some target) :
    Admits flag (levelsOf depth schema) location target ↔ Admits flag levels location target := by
  rcases reaches.cases with rfl | ⟨deep, alsoDeep⟩
  · rfl
  · have notHigher := height_target_le opens
    rw [admits_iff_of_height_le (Nat.le_refl _) (Nat.le_trans notHigher alsoDeep),
      admits_iff_of_height_le (Nat.le_refl _) (Nat.le_trans notHigher deep)]

/-- What a filter leaves of a schema is told by any levels that are enough. -/
theorem filtered_of_reaches (reaches : Reaches depth schema levels) :
    filtered flag depth (.map schema) = atOpened (trimmed flag levels) (.map schema) := by
  rw [filtered]
  cases opens : opened? schema with
  | none => rw [atOpened_of_none opens, atOpened_of_none opens]
  | some level =>
    rw [atOpened_of_some opens, atOpened_of_some opens,
      trimmed_of_reaches reaches (opened?_eq_some_iff.mp opens).1]

/-- What a filter asks of a schema is told by any levels that are enough. -/
theorem passes_of_reaches {strict : Bool} (reaches : Reaches depth schema levels) (given : schema ≠ []) :
    Passes flag depth strict location (.map schema) ↔
      (∀ limit ∈ depth, 1 ≤ limit) ∧
        ∃ target, target? schema = some target ∧ Accepts flag levels strict location target := by
  have accepts_iff {target : Entries} (opens : target? schema = some target) :
      Accepts flag (levelsOf depth schema) strict location target ↔ Accepts flag levels strict location target := by
    by_cases hasProperties : propertiesKey ∈ OrderedMap.keys target
    · rw [accepts_iff_admits hasProperties, accepts_iff_admits hasProperties, admits_of_reaches reaches opens]
    · exact ⟨.of_absent hasProperties, .of_absent hasProperties⟩
  constructor
  · rintro (falsy | ⟨_, allowed, opens, accepts⟩)
    · cases schema with
      | nil => exact absurd rfl given
      | cons entry rest => cases falsy
    · exact ⟨allowed, _, opens, (accepts_iff opens).mp accepts⟩
  · rintro ⟨allowed, target, opens, accepts⟩
    exact .schema given allowed opens ((accepts_iff opens).mpr accepts)

end Reached

/-! ### One depth and then another -/

/-- The deeper of two depths. None is deeper than no limit. -/
def deeper : Option Int → Option Int → Option Int
  | some first, some second => some (max first second)
  | _, _ => none

theorem deeper_self (depth : Option Int) : deeper depth depth = depth := by
  cases depth with
  | none => rfl
  | some limit => rw [deeper, Int.max_self]

theorem one_le_of_mem_deeper {first second : Option Int} (allowedFirst : ∀ limit ∈ first, 1 ≤ limit)
    (allowedSecond : ∀ limit ∈ second, 1 ≤ limit) : ∀ limit ∈ deeper first second, 1 ≤ limit := by
  intro limit member
  cases first with
  | none => cases member
  | some first =>
    cases second with
    | none => cases member
    | some second =>
      cases member
      have := allowedFirst first rfl
      omega

/-- There are levels for two depths, and the more of them are enough for the deeper one. -/
theorem exists_reaches (first second : Option Int) (schema once : Entries) :
    ∃ levels others, Reaches first schema levels ∧ Reaches second once others ∧
      Reaches (deeper first second) schema (max levels others) := by
  cases second with
  | none =>
    refine ⟨levelsOf first schema, max (Tree.map schema).height (Tree.map once).height, reaches_levelsOf _ _,
      Nat.le_max_right _ _, ?_⟩
    have enough : (Tree.map schema).height ≤
        max (levelsOf first schema) (max (Tree.map schema).height (Tree.map once).height) := by omega
    cases first <;> exact enough
  | some second =>
    refine ⟨levelsOf first schema, (second - 1).toNat + 1, reaches_levelsOf _ _, rfl, ?_⟩
    cases first with
    | none => exact Nat.le_trans (Nat.le_succ _) (Nat.le_max_left _ _)
    | some first =>
      change max ((first - 1).toNat + 1) ((second - 1).toNat + 1) = (max first second - 1).toNat + 1
      omega

/-- **Filtering at one depth and then at another** leaves what filtering at the deeper one does. -/
theorem filtered_filtered (first second : Option Int) (schema : Tree) :
    filtered flag second (filtered flag first schema) = filtered flag (deeper first second) schema := by
  cases schema with
  | map schema =>
    obtain ⟨once, isOnce⟩ : ∃ once, filtered flag first (.map schema) = .map once := exists_atOpened_map _ schema
    -- without a limit each filter would count the levels of its own schema, so both are given numbers that fit
    obtain ⟨levels, others, reachesFirst, reachesSecond, reachesDeeper⟩ := exists_reaches first second schema once
    have twice : trimmed flag others ∘ trimmed flag levels = trimmed flag (max levels others) := by
      funext level
      exact trimmed_trimmed levels others level
    rw [isOnce, filtered_of_reaches reachesSecond, ← isOnce, filtered_of_reaches reachesFirst,
      filtered_of_reaches reachesDeeper, ← twice, ← atOpened_atOpened (keepsLevels_trimmed flag levels)]
    rfl
  | _ => rfl

/-- What is asked of the level of a schema by one filter and then by another is what one for more levels asks. -/
theorem accepts_trimmed_iff {first second : Nat} {strict : Bool} {target : Entries} :
    Accepts flag first strict location target ∧ Accepts flag second strict location (trimmed flag first target) ↔
      Accepts flag (max first second) strict location target := by
  by_cases given : propertiesKey ∈ OrderedMap.keys target
  · have still : propertiesKey ∈ OrderedMap.keys (trimmed flag first target) := by rwa [keys_trimmed]
    rw [accepts_iff_admits given, accepts_iff_admits still, accepts_iff_admits given]
    exact admits_trimmed_iff
  · rw [trimmed_of_absent given]
    exact ⟨fun both => both.1.of_absent given, fun accepts => ⟨accepts.of_absent given, accepts.of_absent given⟩⟩

theorem withOpened_trimmed_ne_nil {levels : Nat} {schema target : Entries} (given : schema ≠ [])
    (opens : target? schema = some target) : withOpened schema (trimmed flag levels target) ≠ [] := by
  intro empty
  rcases target?_cases opens with ⟨array, _⟩ | ⟨single, rfl⟩
  · rw [withOpened, if_pos array] at empty
    have found := OrderedMap.get?_insert_self schema itemsKey (.map (trimmed flag levels target))
    rw [empty] at found
    cases found
  · rw [withOpened, if_neg (by simp [single])] at empty
    have sameKeys : OrderedMap.keys (trimmed flag levels target) = OrderedMap.keys target := keys_trimmed levels target
    rw [empty] at sameKeys
    exact given (List.map_eq_nil_iff.mp sameKeys.symm)

/-- What a second filter asks of what the first one has left. -/
theorem passes_filtered_of_reaches {first second : Option Int} (allowedSecond : ∀ limit ∈ second, 1 ≤ limit)
    {strict : Bool} {schema target once : Entries} {levels others : Nat} (given : schema ≠ [])
    (opens : target? schema = some target) (isOnce : filtered flag first (.map schema) = .map once)
    (reachesFirst : Reaches first schema levels) (reachesSecond : Reaches second once others) :
    Passes flag second strict location (.map once) ↔
      Accepts flag others strict location (trimmed flag levels target) := by
  have same := (filtered_of_reaches reachesFirst).symm.trans isOnce
  rw [atOpened_trimmed_of_target opens] at same
  cases same
  have opensOnce := target?_withOpened opens (keepsLevels_trimmed flag levels target).1
  rw [passes_of_reaches reachesSecond (withOpened_trimmed_ne_nil given opens), opensOnce,
    and_iff_right allowedSecond]
  simp only [Option.some.injEq, exists_eq_left']

/-- **A schema passes at one depth and then at another** when it passes at the deeper one. -/
theorem passes_filtered_iff {first second : Option Int} (allowedFirst : ∀ limit ∈ first, 1 ≤ limit)
    (allowedSecond : ∀ limit ∈ second, 1 ≤ limit) {strict : Bool} {schema : Tree} :
    Passes flag first strict location schema ∧ Passes flag second strict location (filtered flag first schema) ↔
      Passes flag (deeper first second) strict location schema := by
  cases truthy : schema.isTruthy with
  | false =>
    have nothing : (filtered flag first schema).isTruthy = false := by
      cases schema with
      | map entries =>
        cases entries with
        | nil => rfl
        | cons entry rest => cases truthy
      | _ => rfl
    exact iff_of_true ⟨.nothing truthy, .nothing nothing⟩ (.nothing truthy)
  | true =>
    cases schema with
    | map schema =>
      have given : schema ≠ [] := by
        rintro rfl
        cases truthy
      obtain ⟨once, isOnce⟩ : ∃ once, filtered flag first (.map schema) = .map once := exists_atOpened_map _ schema
      obtain ⟨levels, others, reachesFirst, reachesSecond, reachesDeeper⟩ := exists_reaches first second schema once
      have atSecond_iff {target : Entries} (opens : target? schema = some target) :
          Passes flag second strict location (.map once) ↔
            Accepts flag others strict location (trimmed flag levels target) :=
        passes_filtered_of_reaches allowedSecond given opens isOnce reachesFirst reachesSecond
      rw [passes_of_reaches reachesFirst given, passes_of_reaches reachesDeeper given, isOnce]
      constructor
      · rintro ⟨⟨_, target, opens, atFirst⟩, passes⟩
        exact ⟨one_le_of_mem_deeper allowedFirst allowedSecond, target, opens,
          accepts_trimmed_iff.mp ⟨atFirst, (atSecond_iff opens).mp passes⟩⟩
      · rintro ⟨_, target, opens, accepts⟩
        obtain ⟨atFirst, atSecond⟩ := accepts_trimmed_iff.mpr accepts
        exact ⟨⟨allowedFirst, target, opens, atFirst⟩, (atSecond_iff opens).mpr atSecond⟩
    | _ =>
      refine iff_of_false (fun both => ?_) (fun passes => ?_)
      · obtain ⟨_, isMap⟩ := both.1.exists_map truthy
        cases isMap
      · obtain ⟨_, isMap⟩ := passes.exists_map truthy
        cases isMap

/-! ### Filters that follow each other -/

/-- **Filtering at one depth and then at another** succeeds when filtering once at the deeper one does, and comes to
the same. So filtering twice at one depth is filtering once, and what can be filtered at some depth can be filtered
at every depth that is less deep. -/
theorem filterSchema_deeper {first second : Option Int} (allowedFirst : ∀ limit ∈ first, 1 ≤ limit)
    (allowedSecond : ∀ limit ∈ second, 1 ≤ limit) (flag : Flag) (strict : Bool) (location : Location)
    (schema : Tree) :
    (∀ result,
        ((filterSchema flag first strict location schema).outcome.1 >>= fun once =>
            (filterSchema flag second strict location once).outcome.1) = .ok result ↔
          (filterSchema flag (deeper first second) strict location schema).outcome.1 = .ok result) ∧
      (∀ once, (filterSchema flag first strict location schema).outcome.1 = .ok once →
        (filterSchema flag first strict location once).outcome.1 = .ok once) ∧
      (deeper first second = second →
        (∃ result, (filterSchema flag second strict location schema).outcome.1 = .ok result) →
          ∃ once, (filterSchema flag first strict location schema).outcome.1 = .ok once) := by
  have follow {second : Option Int} (allowed : ∀ limit ∈ second, 1 ≤ limit) (result : Tree) :
      ((filterSchema flag first strict location schema).outcome.1 >>= fun once =>
          (filterSchema flag second strict location once).outcome.1) = .ok result ↔
        (filterSchema flag (deeper first second) strict location schema).outcome.1 = .ok result := by
    rw [bind_ok_iff, filterSchema_ok_iff, ← passes_filtered_iff allowedFirst allowed, ← filtered_filtered]
    simp only [filterSchema_ok_iff]
    constructor
    · rintro ⟨_, ⟨passes, rfl⟩, passesOnce, rfl⟩
      exact ⟨⟨passes, passesOnce⟩, rfl⟩
    · rintro ⟨⟨passes, passesOnce⟩, rfl⟩
      exact ⟨_, ⟨passes, rfl⟩, passesOnce, rfl⟩
  refine ⟨follow allowedSecond, fun once succeeded => ?_, fun deep => ?_⟩
  · obtain ⟨other, same, again⟩ := bind_ok_iff.mp ((follow allowedFirst once).mpr (by rwa [deeper_self]))
    cases succeeded.symm.trans same
    exact again
  · rintro ⟨result, succeeded⟩
    obtain ⟨once, atFirst, _⟩ := bind_ok_iff.mp ((follow allowedSecond result).mpr (by rwa [deep]))
    exact ⟨once, atFirst⟩

/-- An order with lines, by the properties of both and the required ones of the order. -/
def orderSchema (own ofLine : Entries) (required : List Tree) : Entries :=
  [("properties", .map (own ++ lines)), ("required", .list required)]
where
  lines : Entries := [("lines", .map [("type", .str "array"), ("items", .map items)])]
  items : Entries := [("properties", .map ofLine)]

/-- An identifier that only the server gives. -/
def givenIdentifier : Scalar × Tree :=
  ("id", .map [("readOnly", .bool true)])

theorem filterSchema_deeper_of_orderSchema :
    (∀ limit ∈ some (1 : Int), 1 ≤ limit) ∧ (∀ limit ∈ (none : Option Int), 1 ≤ limit) ∧
      ((filterSchema .readOnly (some 1) true .null
          (.map (orderSchema [givenIdentifier] [givenIdentifier] [.str "id", .str "lines"]))).outcome.1 >>=
        fun once => (filterSchema .readOnly none true .null once).outcome.1) =
        .ok (.map (orderSchema [] [] [.str "lines"])) := by
  have first : ∀ limit ∈ some (1 : Int), 1 ≤ limit := by simp
  have second : ∀ limit ∈ (none : Option Int), 1 ≤ limit := nofun
  refine ⟨first, second, ((filterSchema_deeper first second .readOnly true .null _).1 _).mpr ?_⟩
  decide +kernel

end RouteCompiler.Schema
