/-
**What a filter refuses.**

A filter goes down from the level of a schema by the properties without the flag, as far as its depth says. It fails
when one of the levels that it comes to so is malformed, or is at a place that cannot be written, and for no other
reason: what is under a property with the flag, below the depth, or in an array without an object for its items is not
looked at.

* `Descends`: levels and the paths by which a filter comes to them;
* `Sound`, `admits_iff_sound`: filtering levels asks something of each of those levels alone;
* `Malformed`, `Refused`, `not_sound_iff`: levels that are refused;
* `refused_iff_malformed`: where all names can be spelled, those are the malformed ones;
* `filterSchema_refuses_iff`: when a filter fails;
* `malformed_levels_not_enough`: it does not only fail on levels that hold a list or an object where a name is due.
-/

import RouteCompiler.Proofs.Schema.Paths

namespace RouteCompiler.Schema

variable {flag : Flag} {location : Location}

/-! ### Levels that a filter comes to -/

/-- A level that a filter comes to from another one, by a path of properties without the flag. -/
inductive Descends (flag : Flag) : Entries → (path : List Scalar) → Entries → Prop
  /-- The level itself. -/
  | here (level : Entries) : Descends flag level [] level
  /-- From the level that a property opens. -/
  | property {level properties property nested inner : Entries} {name : Scalar} {rest : List Scalar}
      (given : OrderedMap.get? level propertiesKey = some (.map properties))
      (member : (name, .map property) ∈ properties) (kept : flag.marks property = false)
      (opens : opened? property = some nested) (further : Descends flag nested rest inner) :
      Descends flag level (name :: rest) inner

/-- The place at the end of a path. -/
def pathLocation (location : Location) (path : List Scalar) : Except Failure Location :=
  path.foldlM propertyLocation location

theorem pathLocation_cons_ok_iff {name : Scalar} {rest : List Scalar} {place : Location} :
    pathLocation location (name :: rest) = .ok place ↔
      ∃ inner, propertyLocation location name = .ok inner ∧ pathLocation inner rest = .ok place := by
  rw [pathLocation, List.foldlM_cons, bind_ok_iff]
  rfl

/-- What filtering asks of a level at the end of a path: that it can be filtered, and its place written. -/
structure Sound (location : Location) (path : List Scalar) (level : Entries) : Prop where
  isLevel : ∃ properties, IsLevel level properties
  place : ∃ place, pathLocation location path = .ok place

/-- **Filtering levels asks something of each of them alone.** -/
theorem admits_iff_sound {levels : Nat} {level : Entries} :
    Admits flag levels location level ↔
      ∀ path inner, Descends flag level path inner → path.length < levels → Sound location path inner := by
  induction levels generalizing location level with
  | zero => exact iff_of_true trivial fun _ _ _ within => absurd within (Nat.not_lt_zero _)
  | succ levels ih =>
    constructor
    · rintro ⟨properties, isLevel, below⟩ path inner descends within
      cases descends with
      | here => exact ⟨⟨properties, isLevel⟩, location, rfl⟩
      | property given member kept opens further =>
        cases given.symm.trans isLevel.given
        rw [List.length_cons, Nat.add_lt_add_iff_right] at within
        obtain ⟨place, atName, admits⟩ :=
          below (Nat.ne_zero_of_lt within) _ _ _ (mem_unmarked_iff.mpr ⟨member, kept⟩) opens
        obtain ⟨isInner, last, atLast⟩ := ih.mp admits _ _ further within
        exact ⟨isInner, last, pathLocation_cons_ok_iff.mpr ⟨place, atName, atLast⟩⟩
    · intro sound
      obtain ⟨properties, isLevel⟩ := (sound [] level (.here level) levels.succ_pos).isLevel
      refine ⟨properties, isLevel, fun some name property nested member opens => ?_⟩
      obtain ⟨isProperty, kept⟩ := mem_unmarked_iff.mp member
      have further {path : List Scalar} {inner : Entries} (descends : Descends flag nested path inner) :
          Descends flag level (name :: path) inner := .property isLevel.given isProperty kept opens descends
      obtain ⟨last, atLast⟩ :=
        (sound [name] nested (further (.here nested)) (Nat.succ_lt_succ (Nat.pos_of_ne_zero some))).place
      obtain ⟨place, atName, _⟩ := pathLocation_cons_ok_iff.mp atLast
      refine ⟨place, atName, ih.mpr fun path inner descends within => ?_⟩
      obtain ⟨isInner, last, atLast⟩ := sound (name :: path) inner (further descends) (Nat.succ_lt_succ within)
      obtain ⟨other, sameName, atRest⟩ := pathLocation_cons_ok_iff.mp atLast
      cases atName.symm.trans sameName
      exact ⟨isInner, last, atRest⟩

/-- The levels that a filter comes to have properties, if the first one has. -/
theorem Descends.hasProperties {level inner : Entries} {path : List Scalar} (descends : Descends flag level path inner)
    (given : propertiesKey ∈ OrderedMap.keys level) : propertiesKey ∈ OrderedMap.keys inner := by
  induction descends with
  | here => exact given
  | property _ _ _ opens _ ih => exact ih (opened?_eq_some_iff.mp opens).2

/-- A level is lower than the first one by the names on the way. -/
theorem Descends.length_add_height_le {level inner : Entries} {path : List Scalar}
    (descends : Descends flag level path inner) :
    path.length + (Tree.map inner).height ≤ (Tree.map level).height := by
  induction descends with
  | here => exact Nat.le_of_eq (Nat.zero_add _)
  | property given member _ opens _ ih =>
    have lower := height_property_lt given member
    have notHigher := height_target_le (opened?_eq_some_iff.mp opens).1
    rw [List.length_cons]
    omega

/-! ### Levels that are refused -/

/-- A level of which the properties are not all objects, or of which a required name is unusable. -/
inductive Malformed (unusable : Tree → Prop) (level : Entries) : Prop
  /-- The properties are no object. -/
  | properties {value : Tree} (found : OrderedMap.get? level propertiesKey = some value)
      (noObject : ∀ properties, value ≠ .map properties) : Malformed unusable level
  /-- A property is no object. -/
  | property {properties : Entries} {name : Scalar} {value : Tree}
      (given : OrderedMap.get? level propertiesKey = some (.map properties)) (member : (name, value) ∈ properties)
      (noObject : ∀ property, value ≠ .map property) : Malformed unusable level
  /-- The required names are no list. -/
  | required {value : Tree} (found : OrderedMap.get? level requiredKey = some value)
      (noList : ∀ names, value ≠ .list names) : Malformed unusable level
  /-- A required name is unusable. -/
  | name {names : List Tree} {name : Tree} (listed : OrderedMap.get? level requiredKey = some (.list names))
      (member : name ∈ names) (odd : unusable name) : Malformed unusable level

/-- A tree that cannot be looked for among the names of properties. -/
def IsIncomparable (name : Tree) : Prop :=
  name.isComparable = false

/-- What makes a filter refuse a level at the end of a path. -/
inductive Refused (location : Location) (path : List Scalar) (level : Entries) : Prop
  /-- The level is malformed. -/
  | level (malformed : Malformed IsIncomparable level) : Refused location path level
  /-- Its place cannot be written: the location or a name on the way is a whole number of too many digits. -/
  | place {failure : Failure} (unwritten : pathLocation location path = .error failure) : Refused location path level

/-- A level with properties can be filtered if it is not malformed. -/
theorem not_isLevel_iff {level : Entries} (given : propertiesKey ∈ OrderedMap.keys level) :
    (¬ ∃ properties, IsLevel level properties) ↔ Malformed IsIncomparable level := by
  constructor
  · intro unsound
    by_contra sound
    obtain ⟨value, found⟩ := Option.isSome_iff_exists.mp ((OrderedMap.get?_isSome_iff _ _).mpr given)
    obtain ⟨properties, rfl⟩ : ∃ properties, value = .map properties := by
      by_contra noObject
      exact sound (.properties found (not_exists.mp noObject))
    refine unsound ⟨properties, found, fun entry member => ?_, fun required listed => ?_⟩
    · by_contra noObject
      exact sound (.property found member (not_exists.mp noObject))
    · obtain ⟨names, rfl⟩ : ∃ names, required = .list names := by
        by_contra noList
        exact sound (.required listed (not_exists.mp noList))
      refine ⟨names, rfl, fun name member => ?_⟩
      by_contra odd
      exact sound (.name listed member (Bool.eq_false_iff.mpr odd))
  · rintro malformed ⟨properties, isLevel⟩
    cases malformed with
    | properties found noObject => exact noObject _ (Option.some.inj (found.symm.trans isLevel.given))
    | property found member noObject =>
      cases found.symm.trans isLevel.given
      obtain ⟨property, isObject⟩ := isLevel.objects _ member
      exact noObject property isObject
    | required found noList =>
      obtain ⟨names, isList, _⟩ := isLevel.names _ found
      exact noList names isList
    | name listed member odd =>
      obtain ⟨_, isList, comparable⟩ := isLevel.names _ listed
      cases isList
      exact absurd (comparable _ member) (Bool.eq_false_iff.mp odd)

theorem not_sound_iff {path : List Scalar} {level : Entries} (given : propertiesKey ∈ OrderedMap.keys level) :
    ¬ Sound location path level ↔ Refused location path level := by
  constructor
  · intro unsound
    by_cases isLevel : ∃ properties, IsLevel level properties
    · cases atPath : pathLocation location path with
      | ok place => exact absurd ⟨isLevel, place, atPath⟩ unsound
      | error failure => exact .place atPath
    · exact .level ((not_isLevel_iff given).mp isLevel)
  · rintro (malformed | unwritten) ⟨isLevel, place, written⟩
    · exact (not_isLevel_iff given).mpr malformed isLevel
    · cases unwritten.symm.trans written

/-- A place can be written where the names on the way can be spelled. -/
theorem exists_pathLocation {path : List Scalar} (spelled : location.isSpellable = true)
    (spellable : ∀ name ∈ path, name.isSpellable = true) : ∃ place, pathLocation location path = .ok place := by
  induction path generalizing location with
  | nil => exact ⟨location, rfl⟩
  | cons name rest ih =>
    obtain ⟨ofName, ofRest⟩ := List.forall_mem_cons.mp spellable
    obtain ⟨inner, atName, spelledInner⟩ := exists_propertyLocation spelled ofName
    obtain ⟨place, atRest⟩ := ih spelledInner ofRest
    exact ⟨place, pathLocation_cons_ok_iff.mpr ⟨inner, atName, atRest⟩⟩

/-- So where they can, only what is malformed is refused. -/
theorem refused_iff_malformed {path : List Scalar} {level : Entries} (spelled : location.isSpellable = true)
    (spellable : ∀ name ∈ path, name.isSpellable = true) :
    Refused location path level ↔ Malformed IsIncomparable level := by
  refine ⟨fun refused => ?_, .level⟩
  cases refused with
  | level malformed => exact malformed
  | place unwritten =>
    obtain ⟨place, written⟩ := exists_pathLocation spelled spellable
    cases unwritten.symm.trans written

/-! ### Filters -/

/-- A computation that gives no result fails. -/
theorem exists_error_iff {α : Type} {result : Except Failure α} :
    (∃ failure, result = .error failure) ↔ ¬ ∃ value, result = .ok value := by
  cases result <;> simp

/-- A filter succeeds where all levels down to its depth are sound. -/
theorem exists_filterSchema_iff {depth : Option Int} {strict : Bool} {schema target : Entries}
    (allowed : ∀ limit ∈ depth, 1 ≤ limit) (opens : target? schema = some target)
    (given : propertiesKey ∈ OrderedMap.keys target) :
    (∃ result, (filterSchema flag depth strict location (.map schema)).outcome.1 = .ok result) ↔
      Admits flag (levelsOf depth schema) location target := by
  have some : schema ≠ [] := by
    rintro rfl
    cases opens
    cases given
  simp only [filterSchema_ok_iff, exists_and_left, exists_eq, and_true]
  rw [passes_of_reaches (reaches_levelsOf depth schema) some, and_iff_right allowed, opens]
  simp only [Option.some.injEq, exists_eq_left', accepts_iff_admits given]

/-- **A filter fails** when, among the levels that it comes to down to its depth, there is one that is malformed or
at a place that cannot be written. -/
theorem filterSchema_refuses_iff {depth : Option Int} (allowed : ∀ limit ∈ depth, 1 ≤ limit) (flag : Flag)
    (strict : Bool) (location : Location) {schema target : Entries} (opens : target? schema = some target)
    (given : propertiesKey ∈ OrderedMap.keys target) :
    (∃ failure, (filterSchema flag depth strict location (.map schema)).outcome.1 = .error failure) ↔
      ∃ path level, Descends flag target path level ∧ Within depth (path.length + 1) ∧
        Refused location path level := by
  rw [exists_error_iff, exists_filterSchema_iff allowed opens given, admits_iff_sound]
  push Not
  refine exists₂_congr fun path level => and_congr_right fun descends => ?_
  have inside : path.length + 1 ≤ (Tree.map schema).height := by
    have lower := descends.length_add_height_le
    have notHigher := height_target_le opens
    rw [Tree.height] at lower
    omega
  rw [within_iff allowed inside, Nat.succ_le_iff, not_sound_iff (descends.hasProperties given)]

/-- An order with a property of its lines that is no object. -/
theorem filterSchema_refuses_orderSchema :
    let schema := orderSchema [] [("id", .bool true)] []
    (∀ limit ∈ some (2 : Int), 1 ≤ limit) ∧ target? schema = some schema ∧ propertiesKey ∈ OrderedMap.keys schema ∧
      (filterSchema .readOnly (some 2) true "order" (.map schema)).outcome.1 =
        .error (.malformed (.propertyNotObject "id") "order.lines") ∧
      ∃ path level, Descends .readOnly schema path level ∧ Within (some 2) (path.length + 1) ∧
        Refused "order" path level := by
  intro schema
  have allowed : ∀ limit ∈ some (2 : Int), 1 ≤ limit := by simp
  have opens : target? schema = some schema := rfl
  have given : propertiesKey ∈ OrderedMap.keys schema := by decide
  have failed : (filterSchema .readOnly (some 2) true "order" (.map schema)).outcome.1 =
      .error (.malformed (.propertyNotObject "id") "order.lines") := by decide +kernel
  exact ⟨allowed, opens, given, failed,
    (filterSchema_refuses_iff allowed .readOnly true "order" opens given).mp ⟨_, failed⟩⟩

/-! ### What else is refused -/

/-- That filters fail on the levels of some kind, wherever these are. -/
def RefusalsAre (unfit : Entries → Prop) : Prop :=
  ∀ (flag : Flag) (depth : Option Int) (strict : Bool) (location : Location) (schema target : Entries),
    (∀ limit ∈ depth, 1 ≤ limit) → target? schema = some target → propertiesKey ∈ OrderedMap.keys target →
      ((∃ failure, (filterSchema flag depth strict location (.map schema)).outcome.1 = .error failure) ↔
        ∃ path level, Descends flag target path level ∧ Within depth (path.length + 1) ∧ unfit level)

/-- A list or an object. -/
def IsContainer (name : Tree) : Prop :=
  (∃ items, name = .list items) ∨ ∃ entries, name = .map entries

/-- A schema that requires a set. -/
def setSchema : Entries :=
  [("properties", .map []), ("required", .list [.set ["id"]])]

/-- A schema with a property that has properties of its own, and a number that cannot be spelled for a name. -/
def numberedSchema : Entries :=
  [("properties", .map [(.int Text.leastTooLong, .map [("properties", .map [])])])]

/-- A filter fails on a set among the required names, which is neither a list nor an object. And it fails on levels
that are not malformed at all, since the place of one may be beyond writing. -/
theorem malformed_levels_not_enough :
    ¬ RefusalsAre (Malformed IsContainer) ∧ ¬ RefusalsAre (Malformed IsIncomparable) := by
  constructor
  · intro claimed
    obtain ⟨path, level, descends, _, malformed⟩ :=
      (claimed .readOnly (some 1) true .null setSchema setSchema (by simp) rfl (by decide)).mp
        ⟨.unexpected (.notComparable "set"), by decide +kernel⟩
    -- no property leads on, so the level is the one of the schema
    cases descends with
    | property given member => cases given; cases member
    | here =>
      cases malformed with
      | properties found noObject => cases found; exact noObject _ rfl
      | property given member => cases given; cases member
      | required found noList => cases found; exact noList _ rfl
      | name listed member odd =>
        cases listed
        cases List.mem_singleton.mp member
        rcases odd with ⟨_, same⟩ | ⟨_, same⟩ <;> cases same
  · intro claimed
    have opens : target? numberedSchema = some numberedSchema := rfl
    have given : propertiesKey ∈ OrderedMap.keys numberedSchema := by decide
    -- what is malformed does not depend on the place, but without one the name need not be spelled
    obtain ⟨failure, failed⟩ := (claimed .readOnly none true .null numberedSchema numberedSchema nofun opens given).mpr
      ((claimed .readOnly none true "order" numberedSchema numberedSchema nofun opens given).mp
        ⟨.unexpected .numberTooLong, by decide +kernel⟩)
    have succeeds : (filterSchema .readOnly none true .null (.map numberedSchema)).outcome.1 =
        .ok (.map numberedSchema) := by decide +kernel
    cases succeeds.symm.trans failed

end RouteCompiler.Schema
