/-
**The flagged properties that a filter leaves.**

A reader of a schema goes from an array to its items and from any other schema to its properties, as far as
these lead. A strict filter without a limit goes the same way, except that it does not go on where the items of
an array are an array in turn. So what a reader still finds afterwards with a flag is what is found below such
an array, and nothing else.

* `Opens`, `Exposes`: where a reader goes, and whether a flagged property is found there;
* `Keeps`, `Overlooks`: the same through what is kept, as far as an array of arrays;
* `overlooks_of_exposes`, `exposes_of_overlooks`: what becomes of a schema exposes what is overlooked;
* `exposes_filterSchema_iff`: what an accepted schema exposes without a limit.
-/

import Mathlib.Logic.Relation
import RouteCompiler.Proofs.Schema.Unlimited

namespace RouteCompiler.Schema

open Relation (ReflTransGen)

variable {flag : Flag} {location : Location}

/-! ### What a reader finds -/

/-- A reader goes from an array to its items, and from any other schema to one of its properties. -/
inductive Opens : Tree → Tree → Prop
  /-- The items of an array. -/
  | items {schema items : Entries} (array : describesArray schema = true)
      (found : OrderedMap.get? schema itemsKey = some (.map items)) : Opens (.map schema) (.map items)
  /-- A property of what is no array. -/
  | property {schema properties : Entries} {name : Scalar} {property : Tree}
      (single : describesArray schema = false)
      (found : OrderedMap.get? schema propertiesKey = some (.map properties))
      (member : (name, property) ∈ properties) : Opens (.map schema) property

/-- A schema that is no array has a property with the flag. -/
inductive Shows (flag : Flag) : Tree → Prop
  /-- The property stands among the others. -/
  | property {schema properties : Entries} {name : Scalar} {property : Tree}
      (single : describesArray schema = false)
      (found : OrderedMap.get? schema propertiesKey = some (.map properties))
      (member : (name, property) ∈ properties) (flagged : flag.reserves property = true) :
      Shows flag (.map schema)

/-- In some number of steps a reader comes to a property with the flag. -/
def Exposes (flag : Flag) (tree : Tree) : Prop :=
  ∃ inner, ReflTransGen Opens tree inner ∧ Shows flag inner

theorem Exposes.of_opens {tree next : Tree} (opens : Opens tree next) (exposes : Exposes flag next) :
    Exposes flag tree := by
  obtain ⟨inner, path, shows⟩ := exposes
  exact ⟨inner, path.head opens, shows⟩

/-- An array exposes what its items do. -/
theorem exposes_array_iff {schema : Entries} (array : describesArray schema = true) :
    Exposes flag (.map schema) ↔
      ∃ items, OrderedMap.get? schema itemsKey = some (.map items) ∧ Exposes flag (.map items) := by
  constructor
  · rintro ⟨inner, path, shows⟩
    rcases path.cases_head with rfl | ⟨next, opens, rest⟩
    · cases shows with
      | property single found member flagged => cases single.symm.trans array
    · cases opens with
      | items _ found => exact ⟨_, found, inner, rest, shows⟩
      | property single found member => cases single.symm.trans array
  · rintro ⟨items, found, exposes⟩
    exact exposes.of_opens (.items array found)

/-- Arrays of the same items expose the same. -/
theorem exposes_array_congr {first second : Entries} (array : describesArray first = true)
    (alsoArray : describesArray second = true)
    (same : OrderedMap.get? first itemsKey = OrderedMap.get? second itemsKey) :
    Exposes flag (.map first) ↔ Exposes flag (.map second) := by
  rw [exposes_array_iff array, exposes_array_iff alsoArray, same]

/-! ### What a filter overlooks -/

/-- A filter goes from an array to its items, and from any other schema to a property without the flag. -/
inductive Keeps (flag : Flag) : Tree → Tree → Prop
  /-- The items of an array. -/
  | items {schema items : Entries} (array : describesArray schema = true)
      (found : OrderedMap.get? schema itemsKey = some (.map items)) : Keeps flag (.map schema) (.map items)
  /-- A property of what is no array. -/
  | property {schema properties : Entries} {name : Scalar} {property : Tree}
      (single : describesArray schema = false)
      (found : OrderedMap.get? schema propertiesKey = some (.map properties))
      (member : (name, property) ∈ unmarked flag properties) : Keeps flag (.map schema) property

theorem Keeps.opens {tree next : Tree} (keeps : Keeps flag tree next) : Opens tree next := by
  cases keeps with
  | items array found => exact .items array found
  | property single found member => exact .property single found (mem_unmarked_iff.mp member).1

/-- Through what is kept there is an array whose items are an array that exposes a property with the flag. -/
def Overlooks (flag : Flag) (tree : Tree) : Prop :=
  ∃ outer inner, ReflTransGen (Keeps flag) tree (.map outer) ∧ describesArray outer = true ∧
    OrderedMap.get? outer itemsKey = some (.map inner) ∧ describesArray inner = true ∧
    Exposes flag (.map inner)

theorem Overlooks.of_keeps {tree next : Tree} (keeps : Keeps flag tree next)
    (overlooks : Overlooks flag next) : Overlooks flag tree := by
  obtain ⟨outer, inner, path, rest⟩ := overlooks
  exact ⟨outer, inner, path.head keeps, rest⟩

/-- What is overlooked is exposed by the schema as it was. -/
theorem Overlooks.exposes {tree : Tree} (overlooks : Overlooks flag tree) : Exposes flag tree := by
  obtain ⟨outer, inner, path, array, found, _, exposes⟩ := overlooks
  obtain ⟨last, more, shows⟩ := exposes.of_opens (.items array found)
  have opened : ReflTransGen Opens tree (.map outer) :=
    ReflTransGen.mono (fun _ _ keeps => Keeps.opens keeps) _ _ path
  exact ⟨last, opened.trans more, shows⟩

/-! ### What is left -/

/-- What becomes of a schema shows no property with the flag. -/
theorem not_shows_of_sifts {schema result : Tree} (sifts : Sifts flag schema result) : ¬ Shows flag result := by
  obtain ⟨level, filtered, rfl, rfl⟩ := sifts.exists_maps
  intro shows
  cases shows with
  | property single found member flagged =>
    rw [sifts.describesArray_eq] at single
    rcases sifts.properties single with ⟨absent, rfl⟩ | ⟨properties, results, _, atResult, matched⟩
    · cases absent.symm.trans found
    · cases atResult.symm.trans found
      obtain ⟨property, inProperties, siftsProperty⟩ := matched.mem_left member
      have unflagged := (mem_unmarked_iff.mp inProperties).2
      rw [siftsProperty.reserves_eq, unflagged] at flagged
      cases flagged

/-- **What is left with the flag was overlooked.** -/
theorem overlooks_of_exposes {schema result : Tree} (sifts : Sifts flag schema result)
    (exposes : Exposes flag result) : Overlooks flag schema := by
  obtain ⟨last, path, shows⟩ := exposes
  induction path using ReflTransGen.head_induction_on generalizing schema with
  | refl => exact absurd shows (not_shows_of_sifts sifts)
  | head opens rest ih =>
    obtain ⟨level, filtered, rfl, rfl⟩ := sifts.exists_maps
    cases opens with
    | items array found =>
      rw [sifts.describesArray_eq] at array
      rcases sifts.items array with ⟨same, noItems⟩ |
        ⟨inner, items, atSchema, atResult, ⟨_, siftsItems⟩ | ⟨innerArray, itemsArray, same⟩⟩
      · exact absurd (same.symm.trans found) (noItems _)
      · cases atResult.symm.trans found
        exact (ih siftsItems).of_keeps (.items array atSchema)
      · -- the items are an array in turn, and are left as they were
        cases atResult.symm.trans found
        have exposed : Exposes flag (.map inner) :=
          (exposes_array_congr innerArray itemsArray same.symm).mpr ⟨last, rest, shows⟩
        exact ⟨level, inner, .refl, array, atSchema, innerArray, exposed⟩
    | property single found member =>
      rw [sifts.describesArray_eq] at single
      rcases sifts.properties single with ⟨absent, rfl⟩ | ⟨properties, results, atSchema, atResult, matched⟩
      · cases absent.symm.trans found
      · cases atResult.symm.trans found
        obtain ⟨property, inProperties, siftsProperty⟩ := matched.mem_left member
        exact (ih siftsProperty).of_keeps (.property single atSchema inProperties)

/-- Where the items of an array are an array in turn, what becomes of the outer one exposes what the inner one
did. -/
theorem exposes_of_array_of_arrays {outer inner : Entries} {result : Tree}
    (sifts : Sifts flag (.map outer) result) (array : describesArray outer = true)
    (atOuter : OrderedMap.get? outer itemsKey = some (.map inner)) (innerArray : describesArray inner = true)
    (exposed : Exposes flag (.map inner)) : Exposes flag result := by
  obtain ⟨_, filtered, _, rfl⟩ := sifts.exists_maps
  have filteredArray : describesArray filtered = true := sifts.describesArray_eq.trans array
  rcases sifts.items array with ⟨_, noItems⟩ |
    ⟨items, left, atSchema, atResult, ⟨single, _⟩ | ⟨_, leftArray, same⟩⟩
  · exact absurd atOuter (noItems inner)
  · cases atSchema.symm.trans atOuter
    cases single.symm.trans innerArray
  · cases atSchema.symm.trans atOuter
    have leftExposes : Exposes flag (.map left) :=
      (exposes_array_congr leftArray innerArray same).mpr exposed
    exact leftExposes.of_opens (.items filteredArray atResult)

/-- **What was overlooked is left with the flag.** -/
theorem exposes_of_overlooks {schema result : Tree} (sifts : Sifts flag schema result)
    (overlooks : Overlooks flag schema) : Exposes flag result := by
  obtain ⟨outer, inner, path, outerArray, atOuter, innerArray, exposed⟩ := overlooks
  induction path using ReflTransGen.head_induction_on generalizing result with
  | refl => exact exposes_of_array_of_arrays sifts outerArray atOuter innerArray exposed
  | head keeps rest ih =>
    obtain ⟨level, filtered, rfl, rfl⟩ := sifts.exists_maps
    cases keeps with
    | @items _ items array found =>
      cases isArray : describesArray items with
      | true =>
        have below : Exposes flag (.map items) :=
          Overlooks.exposes ⟨outer, inner, rest, outerArray, atOuter, innerArray, exposed⟩
        exact exposes_of_array_of_arrays sifts array found isArray below
      | false =>
        have filteredArray : describesArray filtered = true := sifts.describesArray_eq.trans array
        rcases sifts.items array with ⟨_, noItems⟩ |
          ⟨_, left, atSchema, atResult, ⟨_, siftsItems⟩ | ⟨itemsArray, _, _⟩⟩
        · exact absurd found (noItems items)
        · cases atSchema.symm.trans found
          exact (ih siftsItems).of_opens (.items filteredArray atResult)
        · cases atSchema.symm.trans found
          cases isArray.symm.trans itemsArray
    | property single found member =>
      have filteredSingle : describesArray filtered = false := sifts.describesArray_eq.trans single
      rcases sifts.properties single with ⟨absent, _⟩ | ⟨properties, results, atSchema, atResult, matched⟩
      · cases absent.symm.trans found
      · cases atSchema.symm.trans found
        obtain ⟨partner, inResults, siftsProperty⟩ := matched.mem_right member
        exact (ih siftsProperty).of_opens (.property filteredSingle atResult inResults)

/-- **Without a limit an accepted schema exposes exactly what is overlooked**: the properties with the flag that
stand below an array whose items are an array. -/
theorem exposes_filterSchema_iff {schema result : Tree}
    (accepted : (filterSchema flag none true location schema).outcome.1 = .ok result) :
    Exposes flag result ↔ Overlooks flag schema := by
  rcases sifts_of_filterSchema accepted with sifts | ⟨noSchema, rfl⟩
  · exact ⟨overlooks_of_exposes sifts, exposes_of_overlooks sifts⟩
  · constructor
    · rintro exposes
      have unchanged : Sifts flag (.map []) (.map []) := .of_opened_none rfl
      obtain ⟨last, path, shows⟩ := exposes
      rcases path.cases_head with rfl | ⟨next, opens, _⟩
      · exact absurd shows (not_shows_of_sifts unchanged)
      · cases opens with
        | items array found => cases found
        | property single found member => cases found
    · rintro ⟨outer, inner, path, _, atOuter, _⟩
      rcases path.cases_head with rfl | ⟨next, keeps, _⟩
      · exact absurd rfl (noSchema outer)
      · cases keeps with
        | items array found => exact absurd rfl (noSchema _)
        | property single found member => exact absurd rfl (noSchema _)

/-- An object whose rows are arrays of objects with a property that is only sent. -/
def rowsSchema : Entries :=
  [("properties", .map [("rows", .map rows)])]
where
  rows : Entries := [("type", .str "array"), ("items", .map cells)]
  cells : Entries := [("type", .str "array"), ("items", .map cell)]
  cell : Entries := [("type", .str "object"), ("properties", .map [("secret", .map [("writeOnly", .bool true)])])]

theorem overlooks_rowsSchema : Overlooks .writeOnly (.map rowsSchema) := by
  have shows : Shows .writeOnly (.map rowsSchema.cell) := .property rfl rfl List.mem_cons_self rfl
  have exposes : Exposes .writeOnly (.map rowsSchema.cells) :=
    Exposes.of_opens (.items rfl rfl) ⟨_, .refl, shows⟩
  have toRows : Keeps .writeOnly (.map rowsSchema) (.map rowsSchema.rows) :=
    .property rfl rfl List.mem_cons_self
  exact ⟨rowsSchema.rows, rowsSchema.cells, .single toRows, rfl, rfl, rfl, exposes⟩

theorem exposes_rowsSchema :
    (filterSchema .writeOnly none true .null (.map rowsSchema)).outcome.1 = .ok (.map rowsSchema) ∧
      Exposes .writeOnly (.map rowsSchema) := by
  have accepted : (filterSchema .writeOnly none true .null (.map rowsSchema)).outcome.1 =
      .ok (.map rowsSchema) := by decide +kernel
  exact ⟨accepted, (exposes_filterSchema_iff accepted).mpr overlooks_rowsSchema⟩

/-- A strict filter without a limit may leave a property with the flag. -/
theorem accepted_schema_may_expose :
    ¬ ∀ (flag : Flag) (location : Location) (schema result : Tree),
      (filterSchema flag none true location schema).outcome.1 = .ok result → ¬ Exposes flag result := by
  intro safe
  exact safe .writeOnly .null (.map rowsSchema) (.map rowsSchema) (by decide +kernel)
    overlooks_rowsSchema.exposes

end RouteCompiler.Schema
