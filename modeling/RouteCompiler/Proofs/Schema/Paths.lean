/-
**What a filter takes out of a schema.**

A property is reached by a path of names, each of which names a property of the level that the one before it opens.
A filter takes out the paths on which one of the first properties has the flag, as many of them as its depth says,
and no others. The levels that it passes lose the properties with the flag and the names of these among the required
ones. Nothing else changes: what stands on such a level beside them, the order in which it stands, and everything
below the last level are as they were.

* `propertiesOf`, `propertyAt?`: the properties of a schema and the property at the end of a path;
* `Spared`, `propertyAt?_trimmed_of_spared`, `isSome_propertyAt?_trimmed_iff`: the property at the end of a path once
  levels are filtered;
* `Rest`, `exists_rest_of_opened`: what is left of a level;
* `TakesOut`, `takesOut_of_filterSchema`: what is left of a schema.
-/

import RouteCompiler.Proofs.Schema.Depth

namespace RouteCompiler.Schema

variable {flag : Flag} {location : Location}

/-! ### Paths -/

/-- The properties of a level. -/
def propertiesIn (level : Entries) : Entries :=
  match OrderedMap.get? level propertiesKey with
  | some (.map properties) => properties
  | _ => []

/-- The properties of the level of a schema. -/
def propertiesOf : Tree → Entries
  | .map schema => ((target? schema).map propertiesIn).getD []
  | _ => []

/-- The property at the end of a path of names. -/
def propertyAt? : Tree → (path : List Scalar) → Option Tree
  | tree, [] => some tree
  | tree, name :: rest => (OrderedMap.get? (propertiesOf tree) name).bind (propertyAt? · rest)

theorem propertyAt?_cons (tree : Tree) (name : Scalar) (rest : List Scalar) :
    propertyAt? tree (name :: rest) = (OrderedMap.get? (propertiesOf tree) name).bind (propertyAt? · rest) :=
  rfl

theorem propertyAt?_cons_of_some {tree property : Tree} {name : Scalar} (rest : List Scalar)
    (found : OrderedMap.get? (propertiesOf tree) name = some property) :
    propertyAt? tree (name :: rest) = propertyAt? property rest := by
  rw [propertyAt?_cons, found, Option.bind_some]

theorem propertiesIn_of_given {level properties : Entries}
    (given : OrderedMap.get? level propertiesKey = some (.map properties)) : propertiesIn level = properties := by
  rw [propertiesIn, given]

theorem propertiesOf_of_target {schema target : Entries} (opens : target? schema = some target) :
    propertiesOf (.map schema) = propertiesIn target := by
  rw [propertiesOf, opens, Option.map_some, Option.getD_some]

/-- A property of a tree is one of the level of a schema. -/
theorem exists_of_get?_propertiesOf {tree property : Tree} {name : Scalar}
    (found : OrderedMap.get? (propertiesOf tree) name = some property) :
    ∃ schema target properties, tree = .map schema ∧ target? schema = some target ∧
      OrderedMap.get? target propertiesKey = some (.map properties) ∧
      OrderedMap.get? properties name = some property := by
  cases tree with
  | map schema =>
    rw [propertiesOf] at found
    cases opens : target? schema with
    | none =>
      rw [opens] at found
      cases found
    | some target =>
      rw [opens, Option.map_some, Option.getD_some, propertiesIn] at found
      split at found
      · rename_i properties given
        exact ⟨schema, target, properties, rfl, opens, given, found⟩
      · cases found
  | _ => cases found

/-! ### Paths that are left -/

theorem propertiesIn_trimmed (levels : Nat) (level : Entries) :
    propertiesIn (trimmed flag (levels + 1) level) =
      OrderedMap.mapValues (atOpened (trimmed flag levels)) (unmarked flag (propertiesIn level)) := by
  by_cases given : ∃ properties, OrderedMap.get? level propertiesKey = some (.map properties)
  · obtain ⟨properties, given⟩ := given
    rw [trimmed_succ given, propertiesIn_of_given (get?_restricted_properties _ _), propertiesIn_of_given given]
  · have none : propertiesIn level = [] := by
      unfold propertiesIn
      split
      · rename_i properties found
        exact absurd ⟨properties, found⟩ given
      · rfl
    rw [trimmed_of_no_properties given, none]
    rfl

/-- The properties of a schema whose first levels are filtered. -/
theorem propertiesOf_trimmed (levels : Nat) (tree : Tree) :
    propertiesOf (atOpened (trimmed flag (levels + 1)) tree) =
      OrderedMap.mapValues (atOpened (trimmed flag levels)) (unmarked flag (propertiesOf tree)) := by
  cases tree with
  | map schema =>
    cases opens : target? schema with
    | none =>
      have opensNone : opened? schema = none := by
        refine Option.eq_none_iff_forall_ne_some.mpr fun level opened => ?_
        cases opens.symm.trans (opened?_eq_some_iff.mp opened).1
      rw [atOpened_of_none opensNone, propertiesOf, opens]
      rfl
    | some target =>
      have stillOpens := target?_withOpened opens (keepsLevels_trimmed flag (levels + 1) target).1
      rw [atOpened_trimmed_of_target opens, propertiesOf_of_target stillOpens, propertiesOf_of_target opens,
        propertiesIn_trimmed]
  | _ => rfl

/-- Of properties with names of their own those without the flag are left. -/
theorem get?_unmarked {properties : Entries} (distinct : OrderedMap.Distinct properties) (name : Scalar) :
    OrderedMap.get? (unmarked flag properties) name =
      (OrderedMap.get? properties name).filter fun property => !flag.reserves property := by
  induction properties with
  | nil => rfl
  | cons entry rest ih =>
    obtain ⟨first, property⟩ := entry
    obtain ⟨fresh, distinctRest⟩ := List.nodup_cons.mp distinct
    rw [unmarked, List.filter_cons, OrderedMap.get?_cons]
    by_cases same : first = name
    · subst same
      rw [if_pos rfl, Option.filter_some]
      split
      · exact if_pos rfl
      · have absent : OrderedMap.get? rest first = none := (OrderedMap.get?_eq_none_iff _ _).mpr fresh
        exact (ih distinctRest).trans (by rw [absent]; rfl)
    · rw [if_neg same]
      split
      · rw [OrderedMap.get?_cons, if_neg same]
        exact ih distinctRest
      · exact ih distinctRest

/-- None of the first `levels` properties on a path has the flag. -/
def Spared (flag : Flag) (levels : Nat) (tree : Tree) (path : List Scalar) : Prop :=
  ∀ before property, before ≠ [] → before <+: path → before.length ≤ levels →
    propertyAt? tree before = some property → flag.reserves property = false

theorem spared_zero (tree : Tree) (path : List Scalar) : Spared flag 0 tree path := by
  intro before property some _ within
  exact absurd (List.length_eq_zero_iff.mp (Nat.le_zero.mp within)) some

theorem spared_nil (levels : Nat) (tree : Tree) : Spared flag levels tree [] := by
  intro before property some isPrefix _
  exact absurd (List.prefix_nil.mp isPrefix) some

/-- A path is spared when its first property is, and the rest of the path inside it. -/
theorem spared_cons_iff {levels : Nat} {tree property : Tree} {name : Scalar} {rest : List Scalar}
    (found : OrderedMap.get? (propertiesOf tree) name = some property) :
    Spared flag (levels + 1) tree (name :: rest) ↔ flag.reserves property = false ∧ Spared flag levels property rest := by
  constructor
  · intro spared
    refine ⟨?_, fun before inner some isPrefix within atBefore => ?_⟩
    · have short : [name].length ≤ levels + 1 := by simp
      exact spared [name] property (List.cons_ne_nil _ _) (by simp) short (propertyAt?_cons_of_some [] found)
    · refine spared (name :: before) inner (List.cons_ne_nil _ _) (List.cons_prefix_cons.mpr ⟨rfl, isPrefix⟩) ?_ ?_
      · rw [List.length_cons]
        omega
      · exact (propertyAt?_cons_of_some before found).trans atBefore
  · rintro ⟨unmarked, spared⟩ before inner some isPrefix within atBefore
    cases before with
    | nil => exact absurd rfl some
    | cons first before =>
      obtain ⟨rfl, inRest⟩ := List.cons_prefix_cons.mp isPrefix
      rw [propertyAt?_cons_of_some before found] at atBefore
      cases before with
      | nil =>
        cases atBefore
        exact unmarked
      | cons second before =>
        refine spared _ inner (List.cons_ne_nil _ _) inRest ?_ atBefore
        rw [List.length_cons] at within
        omega

/-! ### Well-keyed schemas -/

theorem wellKeyed_of_get? {entries : Entries} {key : Scalar} {value : Tree}
    (wellKeyed : (Tree.map entries).WellKeyed) (found : OrderedMap.get? entries key = some value) : value.WellKeyed := by
  rw [Tree.WellKeyed] at wellKeyed
  exact (Tree.wellKeyedValues_iff entries).mp wellKeyed.2 _ (OrderedMap.mem_of_get?_eq_some found)

/-- The properties of a well-keyed schema are a well-keyed map. -/
theorem wellKeyed_propertiesOf {tree : Tree} (wellKeyed : tree.WellKeyed) :
    (Tree.map (propertiesOf tree)).WellKeyed := by
  have empty : (Tree.map []).WellKeyed := ⟨List.nodup_nil, trivial⟩
  cases tree with
  | map schema =>
    cases opens : target? schema with
    | none =>
      rw [propertiesOf, opens]
      exact empty
    | some target =>
      have ofTarget : (Tree.map target).WellKeyed := by
        rcases target?_cases opens with ⟨_, isItems⟩ | ⟨_, rfl⟩
        · exact wellKeyed_of_get? wellKeyed isItems
        · exact wellKeyed
      rw [propertiesOf_of_target opens, propertiesIn]
      split
      · rename_i properties given
        exact wellKeyed_of_get? ofTarget given
      · exact empty
  | _ => exact empty

theorem distinct_propertiesOf {tree : Tree} (wellKeyed : tree.WellKeyed) :
    OrderedMap.Distinct (propertiesOf tree) := by
  have ofProperties := wellKeyed_propertiesOf wellKeyed
  rw [Tree.WellKeyed] at ofProperties
  exact ofProperties.1

/-- The first property of a path, once levels are filtered. -/
theorem get?_propertiesOf_trimmed {tree : Tree} (wellKeyed : tree.WellKeyed) (levels : Nat) (name : Scalar) :
    OrderedMap.get? (propertiesOf (atOpened (trimmed flag (levels + 1)) tree)) name =
      ((OrderedMap.get? (propertiesOf tree) name).filter fun property => !flag.reserves property).map
        (atOpened (trimmed flag levels)) := by
  rw [propertiesOf_trimmed, OrderedMap.get?_mapValues, get?_unmarked (distinct_propertiesOf wellKeyed)]

/-- **The property at the end of a path** that is spared is left, and filtered on the levels that are left. -/
theorem propertyAt?_trimmed_of_spared {levels : Nat} {tree : Tree} {path : List Scalar} (wellKeyed : tree.WellKeyed)
    (spared : Spared flag levels tree path) :
    propertyAt? (atOpened (trimmed flag levels) tree) path =
      (propertyAt? tree path).map (atOpened (trimmed flag (levels - path.length))) := by
  induction path generalizing levels tree with
  | nil => rfl
  | cons name rest ih =>
    cases levels with
    | zero =>
      rw [Nat.zero_sub, trimmed_zero, atOpened_id, Option.map_id]
      rfl
    | succ levels =>
      rw [propertyAt?_cons, get?_propertiesOf_trimmed wellKeyed, propertyAt?_cons]
      cases found : OrderedMap.get? (propertiesOf tree) name with
      | none => rfl
      | some property =>
        have ofProperty := wellKeyed_of_get? (wellKeyed_propertiesOf wellKeyed) found
        obtain ⟨unmarked, sparedRest⟩ := (spared_cons_iff found).mp spared
        rw [Option.filter_some, if_pos (by simp [unmarked]), Option.map_some, Option.bind_some, Option.bind_some,
          ih ofProperty sparedRest, List.length_cons, Nat.add_sub_add_right]

/-- **A path that is not spared** is taken out. -/
theorem propertyAt?_trimmed_of_not_spared {levels : Nat} {tree : Tree} {path : List Scalar}
    (wellKeyed : tree.WellKeyed) (caught : ¬ Spared flag levels tree path) :
    propertyAt? (atOpened (trimmed flag levels) tree) path = none := by
  induction path generalizing levels tree with
  | nil => exact absurd (spared_nil levels tree) caught
  | cons name rest ih =>
    cases levels with
    | zero => exact absurd (spared_zero tree _) caught
    | succ levels =>
      rw [propertyAt?_cons, get?_propertiesOf_trimmed wellKeyed]
      cases found : OrderedMap.get? (propertiesOf tree) name with
      | none => rfl
      | some property =>
        have ofProperty := wellKeyed_of_get? (wellKeyed_propertiesOf wellKeyed) found
        rw [spared_cons_iff found, not_and] at caught
        rw [Option.filter_some]
        split
        · rename_i unmarked
          rw [Bool.not_eq_true'] at unmarked
          exact ih ofProperty (caught unmarked)
        · rfl

/-- **The paths that are left** are those that are spared. -/
theorem isSome_propertyAt?_trimmed_iff {levels : Nat} {tree : Tree} {path : List Scalar} (wellKeyed : tree.WellKeyed) :
    (propertyAt? (atOpened (trimmed flag levels) tree) path).isSome = true ↔
      (propertyAt? tree path).isSome = true ∧ Spared flag levels tree path := by
  by_cases spared : Spared flag levels tree path
  · rw [propertyAt?_trimmed_of_spared wellKeyed spared, Option.isSome_map, and_iff_left spared]
  · rw [propertyAt?_trimmed_of_not_spared wellKeyed spared]
    exact iff_of_false nofun fun both => spared both.2

/-! ### Levels on the way -/

/-- The level that a schema opens can be filtered, at some place. -/
def Admissible (flag : Flag) (levels : Nat) (tree : Tree) : Prop :=
  ∀ schema level, tree = .map schema → opened? schema = some level → ∃ location, Admits flag levels location level

/-- So can the level that a property without the flag opens. -/
theorem Admissible.property {levels : Nat} {tree property : Tree} {name : Scalar}
    (admissible : Admissible flag (levels + 1) tree)
    (found : OrderedMap.get? (propertiesOf tree) name = some property) (kept : flag.reserves property = false) :
    Admissible flag levels property := by
  rintro inner nested rfl opensNested
  obtain ⟨schema, target, properties, rfl, opens, given, isProperty⟩ := exists_of_get?_propertiesOf found
  have opened := opened?_eq_some_iff.mpr ⟨opens, OrderedMap.mem_keys_of_get? given⟩
  obtain ⟨location, others, isLevel, below⟩ := admissible schema target rfl opened
  cases given.symm.trans isLevel.given
  have member := mem_unmarked_iff.mpr ⟨OrderedMap.mem_of_get?_eq_some isProperty, kept⟩
  cases levels with
  | zero => exact ⟨.null, trivial⟩
  | succ levels =>
    obtain ⟨place, _, admits⟩ := below levels.succ_ne_zero name inner nested member opensNested
    exact ⟨place, admits⟩

/-- The levels on a path that is left can be filtered. -/
theorem Admissible.propertyAt {levels : Nat} {tree property : Tree} {path : List Scalar}
    (admissible : Admissible flag levels tree) (spared : Spared flag levels tree path)
    (found : propertyAt? tree path = some property) : Admissible flag (levels - path.length) property := by
  induction path generalizing levels tree with
  | nil =>
    cases found
    exact admissible
  | cons name rest ih =>
    cases levels with
    | zero =>
      rw [Nat.zero_sub]
      exact fun _ _ _ _ => ⟨.null, trivial⟩
    | succ levels =>
      obtain ⟨first, isFirst, atRest⟩ := Option.bind_eq_some_iff.mp found
      obtain ⟨kept, sparedRest⟩ := (spared_cons_iff isFirst).mp spared
      rw [List.length_cons, Nat.add_sub_add_right]
      exact ih (admissible.property isFirst kept) sparedRest atRest

/-! ### What is left -/

/-- What is left of a level without its properties with the flag. -/
structure Rest (flag : Flag) (level remaining : Entries) : Prop where
  /-- The keys are those of the level, in their order. -/
  keys : OrderedMap.keys remaining = OrderedMap.keys level
  /-- Only the properties and the required names may have changed. -/
  others : ∀ key, key ≠ propertiesKey → key ≠ requiredKey →
    OrderedMap.get? remaining key = OrderedMap.get? level key
  /-- The properties without the flag are left, in their order. -/
  properties : ∃ properties kept, OrderedMap.get? level propertiesKey = some (.map properties) ∧
    OrderedMap.get? remaining propertiesKey = some (.map kept) ∧
    OrderedMap.keys kept = OrderedMap.keys (unmarked flag properties)
  /-- Required names are left where they name a property that is left. None are there where none were. -/
  required : (OrderedMap.get? level requiredKey = none ∧ OrderedMap.get? remaining requiredKey = none) ∨
    ∃ names, OrderedMap.get? level requiredKey = some (.list names) ∧
      OrderedMap.get? remaining requiredKey = some (.list (names.filter (isNameOf (propertiesIn remaining))))

theorem rest_trimmed {levels : Nat} {level properties : Entries} (isLevel : IsLevel level properties) :
    Rest flag level (trimmed flag (levels + 1) level) where
  keys := keys_trimmed (levels + 1) level
  others _ notProperties notRequired := get?_trimmed_of_ne notProperties notRequired
  properties := by
    rw [trimmed_succ isLevel.given]
    exact ⟨_, _, isLevel.given, get?_restricted_properties _ _, OrderedMap.keys_mapValues _ _⟩
  required := by
    rw [trimmed_succ isLevel.given, propertiesIn_of_given (get?_restricted_properties _ _)]
    cases given : OrderedMap.get? level requiredKey with
    | none => exact .inl ⟨rfl, get?_restricted_required_of_none given⟩
    | some required =>
      obtain ⟨names, rfl, _⟩ := isLevel.names required given
      exact .inr ⟨names, rfl, get?_restricted_required_of_list given⟩

/-- **The level that a property on a path opens** loses its properties with the flag, if the path goes no deeper than
the levels that are filtered. -/
theorem exists_rest_of_opened {levels : Nat} {tree : Tree} {path : List Scalar} {property level : Entries}
    (wellKeyed : tree.WellKeyed) (admissible : Admissible flag levels tree) (spared : Spared flag levels tree path)
    (further : path.length + 1 ≤ levels) (found : propertyAt? tree path = some (.map property))
    (opens : opened? property = some level) :
    ∃ remaining, propertyAt? (atOpened (trimmed flag levels) tree) path =
      some (.map (withOpened property remaining)) ∧ Rest flag level remaining := by
  obtain ⟨more, isMore⟩ := Nat.exists_eq_add_of_lt further
  have remaining : levels - path.length = more + 1 := by omega
  have admissibleThere := remaining ▸ admissible.propertyAt spared found
  obtain ⟨_, properties, isLevel, _⟩ := admissibleThere property level rfl opens
  refine ⟨trimmed flag (more + 1) level, ?_, rest_trimmed isLevel⟩
  rw [propertyAt?_trimmed_of_spared wellKeyed spared, found, Option.map_some, remaining, atOpened_of_some opens]

/-- **A property that opens no level**, or none that is filtered, stays as it is. -/
theorem propertyAt?_trimmed_of_untouched {levels : Nat} {tree property : Tree} {path : List Scalar}
    (wellKeyed : tree.WellKeyed) (spared : Spared flag levels tree path)
    (found : propertyAt? tree path = some property)
    (untouched : levels ≤ path.length ∨ ∀ entries, property = .map entries → opened? entries = none) :
    propertyAt? (atOpened (trimmed flag levels) tree) path = some property := by
  rw [propertyAt?_trimmed_of_spared wellKeyed spared, found, Option.map_some]
  rcases untouched with beyond | opensNone
  · rw [Nat.sub_eq_zero_of_le beyond, trimmed_zero, atOpened_id, id]
  · cases property with
    | map entries => rw [atOpened_of_none (opensNone entries rfl)]
    | _ => rfl

/-- A number of levels that a depth reaches. -/
def Within (depth : Option Int) (levels : Nat) : Prop :=
  ∀ limit ∈ depth, (levels : Int) ≤ limit

/-- What is left of a schema when the properties with a flag are taken out down to a depth. -/
structure TakesOut (flag : Flag) (depth : Option Int) (schema result : Tree) : Prop where
  /-- A path is left when none of the first properties on it has the flag. -/
  paths : ∀ path, (propertyAt? result path).isSome = true ↔
    (propertyAt? schema path).isSome = true ∧
      ∀ before property, before ≠ [] → before <+: path → Within depth before.length →
        propertyAt? schema before = some property → flag.reserves property = false
  /-- The levels down to the depth are left without the properties that have the flag. -/
  levels : ∀ path property level, (propertyAt? result path).isSome = true → Within depth (path.length + 1) →
    propertyAt? schema path = some (.map property) → opened? property = some level →
      ∃ remaining, propertyAt? result path = some (.map (withOpened property remaining)) ∧
        Rest flag level remaining
  /-- A property that is left stays as it is if it opens no level or none within the depth. -/
  others : ∀ path property, (propertyAt? result path).isSome = true → propertyAt? schema path = some property →
    (¬ Within depth (path.length + 1) ∨ ∀ entries, property = .map entries → opened? entries = none) →
      propertyAt? result path = some property

/-- A property is lower than the schema by the names on the way. -/
theorem length_add_height_le {tree property : Tree} {path : List Scalar}
    (found : propertyAt? tree path = some property) : path.length + property.height ≤ tree.height := by
  induction path generalizing tree with
  | nil =>
    cases found
    simp
  | cons name rest ih =>
    obtain ⟨first, isFirst, atRest⟩ := Option.bind_eq_some_iff.mp found
    obtain ⟨schema, target, properties, rfl, opens, given, isProperty⟩ := exists_of_get?_propertiesOf isFirst
    have inRest := ih atRest
    have lower := height_property_lt given (OrderedMap.mem_of_get?_eq_some isProperty)
    have notHigher := height_target_le opens
    rw [List.length_cons]
    omega

/-- The numbers of levels that a depth reaches, as far as the schema goes. -/
theorem within_iff {depth : Option Int} {schema : Entries} {levels : Nat} (allowed : ∀ limit ∈ depth, 1 ≤ limit)
    (inside : levels ≤ (Tree.map schema).height) : Within depth levels ↔ levels ≤ levelsOf depth schema := by
  cases depth with
  | none =>
    refine iff_of_true nofun (Nat.le_trans inside (Nat.le_succ _))
  | some limit =>
    have := allowed limit rfl
    simp only [Within, Option.mem_def, Option.some.injEq, forall_eq', levelsOf, levelsBelow]
    omega

/-- What passes can be filtered on all levels that are reached. -/
theorem admissible_of_passes {depth : Option Int} {strict : Bool} {schema : Entries}
    (passes : Passes flag depth strict location (.map schema)) :
    Admissible flag (levelsOf depth schema) (.map schema) := by
  intro other level same opened
  cases same
  obtain ⟨opens, given⟩ := opened?_eq_some_iff.mp opened
  rcases passes with falsy | ⟨_, _, alsoOpens, accepts⟩
  · cases schema with
    | nil => cases opened
    | cons entry rest => cases falsy
  · cases opens.symm.trans alsoOpens
    exact ⟨_, (accepts_iff_admits given).mp accepts⟩

/-- **A filter takes out the properties with the flag** of the levels down to its depth, and nothing else. -/
theorem takesOut_of_filterSchema {depth : Option Int} {strict : Bool} {schema : Entries} {result : Tree}
    (allowed : ∀ limit ∈ depth, 1 ≤ limit) (wellKeyed : (Tree.map schema).WellKeyed)
    (accepted : (filterSchema flag depth strict location (.map schema)).outcome.1 = .ok result) :
    TakesOut flag depth (.map schema) result := by
  obtain ⟨passes, rfl⟩ := filterSchema_ok_iff.mp accepted
  have admissible := admissible_of_passes passes
  have reached {path : List Scalar} {property : Tree} (found : propertyAt? (.map schema) path = some property) :
      Within depth path.length ↔ path.length ≤ levelsOf depth schema :=
    within_iff allowed (Nat.le_trans (Nat.le_add_right _ _) (length_add_height_le found))
  -- an object has a height of its own, so the level that it opens is within the height of the schema
  have inSchema {path : List Scalar} {entries : Entries}
      (found : propertyAt? (.map schema) path = some (.map entries)) : path.length + 1 ≤ (Tree.map schema).height := by
    have lower := length_add_height_le found
    rw [Tree.height] at lower
    omega
  have left_iff (path : List Scalar) :
      (propertyAt? (atOpened (trimmed flag (levelsOf depth schema)) (.map schema)) path).isSome = true ↔
        (propertyAt? (.map schema) path).isSome = true ∧ Spared flag (levelsOf depth schema) (.map schema) path :=
    isSome_propertyAt?_trimmed_iff wellKeyed
  rw [filtered]
  constructor
  case paths =>
    intro path
    rw [left_iff]
    refine and_congr_right fun _ => ?_
    constructor
    · intro spared before property some isPrefix within found
      exact spared before property some isPrefix ((reached found).mp within) found
    · intro spared before property some isPrefix within found
      exact spared before property some isPrefix ((reached found).mpr within) found
  case levels =>
    intro path property level left within found opens
    have spared := ((left_iff path).mp left).2
    have further := (within_iff allowed (inSchema found)).mp within
    exact exists_rest_of_opened wellKeyed admissible spared further found opens
  case others =>
    intro path property left found untouched
    refine propertyAt?_trimmed_of_untouched wellKeyed ((left_iff path).mp left).2 found ?_
    cases property with
    | map entries =>
      refine untouched.imp_left fun beyond => Nat.le_of_not_lt fun inside => ?_
      exact beyond ((within_iff allowed (inSchema found)).mpr inside)
    | _ =>
      refine .inr fun entries isMap => ?_
      cases isMap

theorem takesOut_of_orderSchema :
    (∀ limit ∈ some (1 : Int), 1 ≤ limit) ∧
      (Tree.map (orderSchema [givenIdentifier] [givenIdentifier] [.str "id", .str "lines"])).WellKeyed ∧
      (filterSchema .readOnly (some 1) true .null
          (.map (orderSchema [givenIdentifier] [givenIdentifier] [.str "id", .str "lines"]))).outcome.1 =
        .ok (.map (orderSchema [] [givenIdentifier] [.str "lines"])) ∧
      TakesOut .readOnly (some 1)
        (.map (orderSchema [givenIdentifier] [givenIdentifier] [.str "id", .str "lines"]))
        (.map (orderSchema [] [givenIdentifier] [.str "lines"])) := by
  have allowed : ∀ limit ∈ some (1 : Int), 1 ≤ limit := by simp
  have wellKeyed :
      (Tree.map (orderSchema [givenIdentifier] [givenIdentifier] [.str "id", .str "lines"])).WellKeyed := by
    simp [orderSchema, orderSchema.lines, orderSchema.items, givenIdentifier, Tree.WellKeyed, Tree.WellKeyedValues,
      Tree.WellKeyedItems, OrderedMap.Distinct]
  have accepted : (filterSchema .readOnly (some 1) true .null
      (.map (orderSchema [givenIdentifier] [givenIdentifier] [.str "id", .str "lines"]))).outcome.1 =
        .ok (.map (orderSchema [] [givenIdentifier] [.str "lines"])) := by decide +kernel
  exact ⟨allowed, wellKeyed, accepted, takesOut_of_filterSchema allowed wellKeyed accepted⟩

end RouteCompiler.Schema
