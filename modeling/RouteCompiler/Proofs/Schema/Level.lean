/-
**Levels of a schema, from the result.**

A filter is opened from its result, one level at a time. A level loses its flagged properties and the names of
these; each property that is kept may open a level of its own, which is filtered at its own place.

* `keptProperties_ok_iff`, `pruneLevel_ok_iff`: one level;
* `get?_withProperties`: what a level keeps beside its properties;
* `opened?`, `filterNested_ok_iff`: the level that a property opens, and what becomes of the property;
* `filterBelow_ok_iff`, `filterLevels_succ_ok_iff`: the levels below.
-/

import RouteCompiler.Proofs.Computation
import RouteCompiler.Proofs.Tree.Matched
import RouteCompiler.Schema.Filter

namespace RouteCompiler.Schema

variable {flag : Flag} {location : Location}

/-! ### Properties -/

/-- Whether a property is an object with a flag. -/
def Flag.reserves (flag : Flag) : Tree → Bool
  | .map property => flag.marks property
  | _ => false

/-- A flag is none of the parts of a schema. -/
theorem Flag.key_ne_part (flag : Flag) {key : Scalar}
    (part : key = propertiesKey ∨ key = requiredKey ∨ key = itemsKey) : flag.key ≠ key := by
  rcases part with rfl | rfl | rfl <;> cases flag <;> decide

/-- The properties without a flag. -/
def unmarked (flag : Flag) (properties : Entries) : Entries :=
  properties.filter fun entry => !flag.reserves entry.2

theorem mem_unmarked_iff {properties : Entries} {name : Scalar} {property : Tree} :
    (name, property) ∈ unmarked flag properties ↔
      (name, property) ∈ properties ∧ flag.reserves property = false := by
  rw [unmarked, List.mem_filter, Bool.not_eq_true']

/-- All properties are objects. -/
def AreObjects (properties : Entries) : Prop :=
  ∀ entry ∈ properties, ∃ property, entry.2 = .map property

theorem AreObjects.unmarked {properties : Entries} (objects : AreObjects properties) (flag : Flag) :
    AreObjects (unmarked flag properties) :=
  fun entry member => objects entry (List.mem_of_mem_filter member)

/-- The properties without a flag are taken when all of them are objects. -/
theorem keptProperties_ok_iff {properties kept : Entries} :
    keptProperties flag location properties = .ok kept ↔
      AreObjects properties ∧ kept = unmarked flag properties := by
  induction properties generalizing kept with
  | nil =>
    rw [keptProperties]
    constructor
    · intro same
      cases same
      exact ⟨nofun, rfl⟩
    · rintro ⟨_, rfl⟩
      rfl
  | cons entry rest ih =>
    obtain ⟨name, value⟩ := entry
    cases value with
    | map property =>
      have objects : AreObjects ((name, .map property) :: rest) ↔ AreObjects rest := by
        simp [AreObjects]
      have split : unmarked flag ((name, .map property) :: rest) =
          if flag.marks property then unmarked flag rest else (name, .map property) :: unmarked flag rest := by
        rw [unmarked, List.filter_cons, Flag.reserves]
        cases flag.marks property <;> rfl
      rw [keptProperties, bind_ok_iff, objects, split]
      constructor
      · rintro ⟨others, atRest, same⟩
        obtain ⟨areObjects, rfl⟩ := ih.mp atRest
        exact ⟨areObjects, (Except.ok.inj same).symm⟩
      · rintro ⟨areObjects, rfl⟩
        exact ⟨_, ih.mpr ⟨areObjects, rfl⟩, rfl⟩
    | _ =>
      rw [keptProperties]
      · constructor
        · intro failed
          cases failed
        · rintro ⟨objects, _⟩
          obtain ⟨_, same⟩ := objects _ List.mem_cons_self
          cases same
      · exact nofun

/-! ### One level -/

/-- A level is pruned when its properties are objects and its required names can be matched with them. -/
theorem pruneLevel_ok_iff {level pruned kept : Entries} :
    pruneLevel flag location level = .ok (pruned, kept) ↔
      ∃ properties, OrderedMap.get? level propertiesKey = some (.map properties) ∧ AreObjects properties ∧
        kept = unmarked flag properties ∧ withProperties location level kept = .ok pruned := by
  rw [pruneLevel, bind_ok_iff]
  constructor
  · rintro ⟨remaining, atProperties, later⟩
    obtain ⟨replaced, atLevel, same⟩ := bind_ok_iff.mp later
    cases same
    unfold levelProperties at atProperties
    split at atProperties
    · rename_i properties found
      obtain ⟨objects, same⟩ := keptProperties_ok_iff.mp atProperties
      exact ⟨properties, found, objects, same, atLevel⟩
    · cases atProperties
  · rintro ⟨properties, found, objects, same, atLevel⟩
    refine ⟨kept, ?_, bind_ok_iff.mpr ⟨pruned, atLevel, rfl⟩⟩
    rw [levelProperties, found]
    exact keptProperties_ok_iff.mpr ⟨objects, same⟩

/-- Where a level is given its properties, nothing else changes but the required names. -/
theorem get?_withProperties {level kept pruned : Entries}
    (succeeded : withProperties location level kept = .ok pruned) :
    OrderedMap.get? pruned propertiesKey = some (.map kept) ∧
      ∀ key, key ≠ propertiesKey → key ≠ requiredKey →
        OrderedMap.get? pruned key = OrderedMap.get? level key := by
  unfold withProperties at succeeded
  split at succeeded
  · cases succeeded
    refine ⟨by rw [OrderedMap.get?_insert, if_pos rfl], fun key notProperties _ => ?_⟩
    rw [OrderedMap.get?_insert, if_neg notProperties.symm]
  · obtain ⟨names, _, same⟩ := bind_ok_iff.mp succeeded
    cases same
    refine ⟨?_, fun key notProperties notRequired => ?_⟩
    · rw [OrderedMap.get?_insert, if_neg (by decide), OrderedMap.get?_insert, if_pos rfl]
    · rw [OrderedMap.get?_insert, if_neg notRequired.symm, OrderedMap.get?_insert,
        if_neg notProperties.symm]
  · cases succeeded

/-! ### Levels below -/

/-- The level that a property opens: itself or the items of an array, if it has properties. -/
def opened? (property : Entries) : Option Entries :=
  if describesArray property then
    match OrderedMap.get? property itemsKey with
    | some (.map items) => if OrderedMap.contains items propertiesKey then some items else none
    | _ => none
  else if OrderedMap.contains property propertiesKey then some property else none

theorem opened?_of_single {property : Entries} (single : describesArray property = false) :
    opened? property = if OrderedMap.contains property propertiesKey then some property else none := by
  rw [opened?, if_neg (by simp [single])]

theorem opened?_of_items {property items : Entries} (array : describesArray property = true)
    (found : OrderedMap.get? property itemsKey = some (.map items)) :
    opened? property = if OrderedMap.contains items propertiesKey then some items else none := by
  rw [opened?, if_pos array, found]

theorem opened?_of_no_items {property : Entries} (array : describesArray property = true)
    (noItems : ∀ items, OrderedMap.get? property itemsKey ≠ some (.map items)) :
    opened? property = none := by
  rw [opened?, if_pos array]
  split
  · rename_i items found
    exact absurd found (noItems items)
  · rfl

/-- A property with another level in the place of the one that it opens. -/
def withOpened (property level : Entries) : Entries :=
  if describesArray property then OrderedMap.insert property itemsKey (.map level) else level

theorem filterNested_eq (filter : Entries → Except Failure Entries) (property : Entries) :
    filterNested filter property =
      match opened? property with
      | some level => filter level >>= fun filtered => .ok (withOpened property filtered)
      | none => .ok property := by
  unfold filterNested opened? withOpened
  cases describesArray property with
  | true =>
    cases OrderedMap.get? property itemsKey with
    | none => rfl
    | some value =>
      cases value with
      | map items =>
        simp only [if_true]
        cases OrderedMap.contains items propertiesKey <;> rfl
      | _ => rfl
  | false =>
    simp only [Bool.false_eq_true, if_false]
    cases OrderedMap.contains property propertiesKey with
    | true =>
      simp only [if_true]
      cases filter property <;> rfl
    | false => rfl

/-- A property that opens no level stays, and the others have the level filtered. -/
theorem filterNested_ok_iff {filter : Entries → Except Failure Entries} {property result : Entries} :
    filterNested filter property = .ok result ↔
      (opened? property = none ∧ result = property) ∨
        ∃ level filtered, opened? property = some level ∧ filter level = .ok filtered ∧
          result = withOpened property filtered := by
  rw [filterNested_eq]
  cases opened? property with
  | none =>
    constructor
    · intro same
      exact Or.inl ⟨rfl, (Except.ok.inj same).symm⟩
    · rintro (⟨_, rfl⟩ | ⟨_, _, opens, _⟩)
      · rfl
      · cases opens
  | some level =>
    simp only
    rw [bind_ok_iff]
    constructor
    · rintro ⟨filtered, succeeded, same⟩
      exact Or.inr ⟨level, filtered, rfl, succeeded, (Except.ok.inj same).symm⟩
    · rintro (⟨opensNone, _⟩ | ⟨_, filtered, opens, succeeded, rfl⟩)
      · cases opensNone
      · cases opens
        exact ⟨filtered, succeeded, rfl⟩

/-- The levels of properties that are objects are filtered each at its place. -/
theorem filterBelow_ok_iff {filter : Location → Entries → Except Failure Entries} {kept results : Entries}
    (objects : AreObjects kept) :
    filterBelow filter location kept = .ok results ↔
      List.Forall₂ (fun entry result => entry.1 = result.1 ∧ ∃ property filtered,
        entry.2 = .map property ∧ result.2 = .map filtered ∧
          filterNested (atProperty filter location entry.1) property = .ok filtered) kept results := by
  induction kept generalizing results with
  | nil =>
    rw [filterBelow, List.forall₂_nil_left_iff]
    exact ⟨fun same => (Except.ok.inj same).symm, fun same => by rw [same]⟩
  | cons entry rest ih =>
    obtain ⟨name, value⟩ := entry
    obtain ⟨property, isObject⟩ := objects _ List.mem_cons_self
    cases isObject
    have ofRest : AreObjects rest := fun other member => objects other (List.mem_cons_of_mem _ member)
    rw [filterBelow, bind_ok_iff, List.forall₂_cons_left_iff]
    constructor
    · rintro ⟨filtered, atProperty, later⟩
      obtain ⟨remaining, atRest, same⟩ := bind_ok_iff.mp later
      exact ⟨(name, .map filtered), remaining, ⟨rfl, property, filtered, rfl, rfl, atProperty⟩,
        (ih ofRest).mp atRest, (Except.ok.inj same).symm⟩
    · rintro ⟨⟨_, _⟩, remaining, ⟨rfl, inner, filtered, isInner, rfl, atProperty⟩, atRest, rfl⟩
      cases isInner
      exact ⟨filtered, atProperty, bind_ok_iff.mpr ⟨remaining, (ih ofRest).mpr atRest, rfl⟩⟩

/-- A level is filtered with those below it: it is pruned, and then the properties that are kept are
filtered. -/
theorem filterLevels_succ_ok_iff {below : Nat} {level result : Entries} :
    filterLevels flag (below + 1) location level = .ok result ↔
      ∃ pruned kept results, pruneLevel flag location level = .ok (pruned, kept) ∧
        filterBelow (filterLevels flag below) location kept = .ok results ∧
        result = OrderedMap.insert pruned propertiesKey (.map results) := by
  rw [filterLevels, bind_ok_iff]
  constructor
  · rintro ⟨⟨pruned, kept⟩, atLevel, later⟩
    obtain ⟨results, atKept, same⟩ := bind_ok_iff.mp later
    exact ⟨pruned, kept, results, atLevel, atKept, (Except.ok.inj same).symm⟩
  · rintro ⟨pruned, kept, results, atLevel, atKept, rfl⟩
    exact ⟨(pruned, kept), atLevel, bind_ok_iff.mpr ⟨results, atKept, rfl⟩⟩

end RouteCompiler.Schema
