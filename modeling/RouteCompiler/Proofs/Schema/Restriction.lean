/-
**Levels that are restricted.**

One level is filtered by restricting it to its properties without the flag: they take the place of the properties,
and among the required names only theirs stay. What else stands on the level stays as it is, and so does the order
of its keys.

* `OrderedMap.mapValues`: a map with each value changed;
* `isNameOf`, `restricted`: a level with other properties;
* `IsLevel`, `pruneLevel_ok_iff_isLevel`: levels that can be filtered, and what becomes of them;
* `get?_restricted_properties`, `get?_restricted_of_ne`, `keys_restricted`: what a restricted level holds;
* `restricted_restricted`: restricting a level, and then further.
-/

import RouteCompiler.Proofs.Schema.Level
import RouteCompiler.Proofs.Tree.SameKey

namespace RouteCompiler

/-! ### Values of a map -/

namespace OrderedMap

variable {κ α β γ : Type}

/-- A map with each value changed. -/
def mapValues (change : α → β) (entries : List (κ × α)) : List (κ × β) :=
  entries.map fun entry => (entry.1, change entry.2)

@[simp] theorem keys_mapValues (change : α → β) (entries : List (κ × α)) :
    keys (mapValues change entries) = keys entries := by
  simp [keys, mapValues]

theorem mapValues_mapValues (change : α → β) (next : β → γ) (entries : List (κ × α)) :
    mapValues next (mapValues change entries) = mapValues (next ∘ change) entries := by
  simp [mapValues]

theorem mapValues_id (entries : List (κ × α)) : mapValues id entries = entries := by
  simp [mapValues]

theorem get?_mapValues [DecidableEq κ] (change : α → β) (entries : List (κ × α)) (key : κ) :
    get? (mapValues change entries) key = (get? entries key).map change :=
  get?_rename id change entries key

end OrderedMap

namespace Schema

variable {flag : Flag} {location : Location}

/-! ### One level -/

/-- Whether a required name is that of one of the properties. -/
def isNameOf (properties : Entries) : Tree → Bool
  | .scalar name => Entries.has properties name
  | _ => false

/-- A level with the given properties, and with their names alone among the required ones. -/
def restricted (level kept : Entries) : Entries :=
  match OrderedMap.get? level requiredKey with
  | some (.list names) =>
    OrderedMap.insert (OrderedMap.insert level propertiesKey (.map kept)) requiredKey
      (.list (names.filter (isNameOf kept)))
  | _ => OrderedMap.insert level propertiesKey (.map kept)

/-- A level that can be filtered: its properties are objects, and its required names can be told from each other. -/
structure IsLevel (level properties : Entries) : Prop where
  given : OrderedMap.get? level propertiesKey = some (.map properties)
  objects : AreObjects properties
  names : ∀ required, OrderedMap.get? level requiredKey = some required →
    ∃ names, required = .list names ∧ ∀ name ∈ names, name.isComparable = true

theorem keptNames_ok_iff {kept : Entries} {names result : List Tree} :
    keptNames kept names = .ok result ↔
      (∀ name ∈ names, name.isComparable = true) ∧ result = names.filter (isNameOf kept) := by
  induction names generalizing result with
  | nil =>
    rw [keptNames, Except.ok.injEq, List.filter_nil, and_iff_right (List.forall_mem_nil _)]
    exact eq_comm
  | cons first rest ih =>
    rw [List.forall_mem_cons, List.filter_cons]
    cases first with
    | scalar name =>
      rw [keptNames, bind_ok_iff, isNameOf]
      simp only [ih, Tree.isComparable, true_and]
      constructor
      · rintro ⟨_, ⟨comparable, rfl⟩, same⟩
        exact ⟨comparable, (Except.ok.inj same).symm⟩
      · rintro ⟨comparable, rfl⟩
        exact ⟨_, ⟨comparable, rfl⟩, rfl⟩
    | _ =>
      rw [keptNames]
      · split
        · rename_i comparable
          rw [ih, and_iff_right comparable]
          rfl
        · rename_i incomparable
          exact iff_of_false nofun fun holds => incomparable holds.1.1
      · intro _ isScalar
        cases isScalar

theorem withProperties_ok_iff {level result kept : Entries} :
    withProperties location level kept = .ok result ↔
      (∀ required, OrderedMap.get? level requiredKey = some required →
        ∃ names, required = .list names ∧ ∀ name ∈ names, name.isComparable = true) ∧
        result = restricted level kept := by
  unfold withProperties restricted
  dsimp only
  split
  · rename_i absent
    rw [absent, Except.ok.injEq, and_iff_right fun _ given => absurd given.symm (Option.some_ne_none _)]
    exact eq_comm
  · rename_i names listed
    rw [listed, bind_ok_iff]
    simp only [keptNames_ok_iff, Option.some.injEq, forall_eq', Tree.list.injEq, exists_eq_left']
    constructor
    · rintro ⟨_, ⟨comparable, rfl⟩, same⟩
      exact ⟨comparable, (Except.ok.inj same).symm⟩
    · rintro ⟨comparable, rfl⟩
      exact ⟨_, ⟨comparable, rfl⟩, rfl⟩
  · rename_i other noList given
    refine iff_of_false (fun ended => ?_) (fun both => ?_)
    · cases ended
    · obtain ⟨names, isList, _⟩ := both.1 _ given
      exact noList names isList

theorem pruneLevel_ok_iff_isLevel {level pruned kept : Entries} :
    pruneLevel flag location level = .ok (pruned, kept) ↔
      ∃ properties, IsLevel level properties ∧ kept = unmarked flag properties ∧ pruned = restricted level kept := by
  rw [pruneLevel_ok_iff]
  simp only [withProperties_ok_iff]
  constructor
  · rintro ⟨properties, given, objects, same, names, pruned⟩
    exact ⟨properties, ⟨given, objects, names⟩, same, pruned⟩
  · rintro ⟨properties, isLevel, same, pruned⟩
    exact ⟨properties, isLevel.given, isLevel.objects, same, isLevel.names, pruned⟩

/-- What are names of properties is told by the keys alone. -/
theorem isNameOf_congr {first second : Entries} (same : OrderedMap.keys first = OrderedMap.keys second) :
    isNameOf first = isNameOf second := by
  have has (name : Scalar) : Entries.has first name = Entries.has second name := by
    rw [Bool.eq_iff_iff, Entries.has, Entries.has, OrderedMap.contains_iff, OrderedMap.contains_iff,
      Entries.spelling, Entries.spelling, same]
  funext name
  cases name with
  | scalar name => exact has name
  | _ => rfl

/-- More keys are names of more properties. -/
theorem isNameOf_mono {first second : Entries} (within : OrderedMap.keys first ⊆ OrderedMap.keys second) {name : Tree}
    (named : isNameOf first name = true) : isNameOf second name = true := by
  cases name with
  | scalar name =>
    rw [isNameOf, ← Bool.not_eq_false, Entries.has_eq_false_iff, Entries.find?_eq_none_iff] at named ⊢
    exact fun unnamed => named fun key member => unnamed key (within member)
  | _ => cases named

section Restricted

variable {level properties kept results : Entries}

theorem get?_restricted_properties (level kept : Entries) :
    OrderedMap.get? (restricted level kept) propertiesKey = some (.map kept) := by
  unfold restricted
  split
  · rw [OrderedMap.get?_insert, if_neg (by decide), OrderedMap.get?_insert_self]
  · exact OrderedMap.get?_insert_self _ _ _

theorem get?_restricted_of_ne {key : Scalar} (notProperties : key ≠ propertiesKey) (notRequired : key ≠ requiredKey) :
    OrderedMap.get? (restricted level kept) key = OrderedMap.get? level key := by
  unfold restricted
  split
  · rw [OrderedMap.get?_insert, if_neg notRequired.symm, OrderedMap.get?_insert, if_neg notProperties.symm]
  · rw [OrderedMap.get?_insert, if_neg notProperties.symm]

theorem get?_restricted_required_of_list {names : List Tree}
    (listed : OrderedMap.get? level requiredKey = some (.list names)) :
    OrderedMap.get? (restricted level kept) requiredKey = some (.list (names.filter (isNameOf kept))) := by
  rw [restricted, listed]
  exact OrderedMap.get?_insert_self _ _ _

theorem get?_restricted_required_of_none (absent : OrderedMap.get? level requiredKey = none) :
    OrderedMap.get? (restricted level kept) requiredKey = none := by
  rw [restricted, absent]
  dsimp only
  rw [OrderedMap.get?_insert, if_neg (by decide), absent]

/-- A level that has properties keeps its keys. -/
theorem keys_restricted (given : propertiesKey ∈ OrderedMap.keys level) :
    OrderedMap.keys (restricted level kept) = OrderedMap.keys level := by
  have replaced : OrderedMap.keys (OrderedMap.insert level propertiesKey (.map kept)) = OrderedMap.keys level := by
    rw [OrderedMap.keys_insert, if_pos given]
  unfold restricted
  split
  · rename_i names listed
    rw [OrderedMap.keys_insert, replaced, if_pos (OrderedMap.mem_keys_of_get? listed)]
  · exact replaced

/-- Other properties with the same names may be put in the place of those of a level. -/
theorem insert_restricted (same : OrderedMap.keys results = OrderedMap.keys kept) :
    OrderedMap.insert (restricted level kept) propertiesKey (.map results) = restricted level results := by
  unfold restricted
  split
  · have present : propertiesKey ∈ OrderedMap.keys (OrderedMap.insert level propertiesKey (.map kept)) :=
      (OrderedMap.mem_keys_insert _ _ _ _).mpr (.inl rfl)
    rw [OrderedMap.insert_comm (by decide) present, OrderedMap.insert_insert, isNameOf_congr same]
  · exact OrderedMap.insert_insert _ _ _ _

/-- To restrict a level and then restrict it further is to do only the latter. -/
theorem restricted_restricted (within : OrderedMap.keys results ⊆ OrderedMap.keys kept) :
    restricted (restricted level kept) results = restricted level results := by
  by_cases listed : ∃ names, OrderedMap.get? level requiredKey = some (.list names)
  · obtain ⟨names, listed⟩ := listed
    have present : propertiesKey ∈ OrderedMap.keys (OrderedMap.insert level propertiesKey (.map kept)) :=
      (OrderedMap.mem_keys_insert _ _ _ _).mpr (.inl rfl)
    have again : (names.filter (isNameOf kept)).filter (isNameOf results) = names.filter (isNameOf results) := by
      rw [List.filter_filter]
      refine List.filter_congr fun name _ => ?_
      rw [Bool.and_eq_left_iff_imp]
      exact isNameOf_mono within
    rw [restricted, get?_restricted_required_of_list listed]
    simp only [restricted, listed]
    rw [again, OrderedMap.insert_comm (by decide) present, OrderedMap.insert_insert, OrderedMap.insert_insert]
  · have unlisted (kept : Entries) : restricted level kept = OrderedMap.insert level propertiesKey (.map kept) := by
      rw [restricted]
      split
      · rename_i names found
        exact absurd ⟨names, found⟩ listed
      · rfl
    rw [unlisted, unlisted, restricted, OrderedMap.get?_insert, if_neg (by decide), OrderedMap.insert_insert]
    split
    · rename_i names found
      exact absurd ⟨names, found⟩ listed
    · rfl

/-- What is restricted is a level again. -/
theorem IsLevel.restricted (isLevel : IsLevel level properties) (objects : AreObjects kept) :
    IsLevel (restricted level kept) kept where
  given := get?_restricted_properties level kept
  objects := objects
  names required found := by
    cases given : OrderedMap.get? level requiredKey with
    | none =>
      rw [get?_restricted_required_of_none given] at found
      cases found
    | some original =>
      obtain ⟨names, rfl, comparable⟩ := isLevel.names original given
      rw [get?_restricted_required_of_list given] at found
      cases found
      exact ⟨_, rfl, fun name member => comparable name (List.mem_of_mem_filter member)⟩

end Restricted

end Schema

end RouteCompiler
