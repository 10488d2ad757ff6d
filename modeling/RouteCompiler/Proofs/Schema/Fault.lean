/-
**What can be wrong with a schema.**

Filtering goes through a schema level by level. Each step fails with a fault of the schema alone, and the one
event that is reported on the way does not decide the outcome. The place of a fault is that of the schema, with the
names of the properties on the way put after it.

* `Places`: places with which come those of the properties inside them;
* `onlyFaultsAt_pruneLevel`, `onlyFaultsAt_filterLevels`: the levels;
* `onlyFaultsAt_isUnstructured`: schemas that have no properties to filter;
* `confinedTo_filterSchema`: filtering as a whole.
-/

import RouteCompiler.Proofs.Fault
import RouteCompiler.Schema.Filter

namespace RouteCompiler

namespace Schema

/-- Places with which come those of the properties inside them. -/
structure Places where
  has : Location → Prop
  property : ∀ {location name inner}, has location → propertyLocation location name = .ok inner → has inner

/-- All places. -/
def Places.all : Places :=
  ⟨fun _ => True, fun _ _ => trivial⟩

variable (flag : Flag) {location : Location}

theorem onlyFaultsAt_keptProperties {places : Location → Prop} (here : places location) (properties : Entries) :
    OnlyFaultsAt places (keptProperties flag location properties) := by
  fun_induction keptProperties flag location properties with
  | case1 => exact .ok _
  | case2 name property rest ih => exact ih.bind fun kept => .ok _
  | case3 name value rest => exact .error (Failure.isFaultAt_ofProblem _ here)

theorem onlyFaultsAt_keptNames {places : Location → Prop} (kept : Entries) (names : List Tree) :
    OnlyFaultsAt places (keptNames kept names) := by
  fun_induction keptNames kept names with
  | case1 => exact .ok _
  | case2 name rest ih => exact ih.bind fun others => .ok _
  | case3 other rest _ comparable ih => exact ih
  | case4 => exact .error (.unexpected _)

theorem onlyFaultsAt_pruneLevel {places : Location → Prop} (here : places location) (level : Entries) :
    OnlyFaultsAt places (pruneLevel flag location level) := by
  have properties : OnlyFaultsAt places (levelProperties flag location level) := by
    unfold levelProperties
    split
    · exact onlyFaultsAt_keptProperties flag here _
    · exact .error (Failure.isFaultAt_ofProblem _ here)
  refine properties.bind fun kept => OnlyFaultsAt.bind ?_ fun pruned => .ok _
  unfold withProperties
  split
  · exact .ok _
  · exact (onlyFaultsAt_keptNames kept _).bind fun names => .ok _
  · exact .error (Failure.isFaultAt_ofProblem _ here)

theorem onlyFaultsAt_filterNested {places : Location → Prop} {filter : Entries → Except Failure Entries}
    (below : ∀ level, OnlyFaultsAt places (filter level)) (property : Entries) :
    OnlyFaultsAt places (filterNested filter property) := by
  unfold filterNested
  split
  · split
    · split
      · exact (below _).bind fun items => .ok _
      · exact .ok _
    · exact .ok _
  · split
    · exact below property
    · exact .ok _

variable (places : Places)

theorem onlyFaultsAt_atProperty {filter : Location → Entries → Except Failure Entries}
    (below : ∀ {place}, places.has place → ∀ level, OnlyFaultsAt places.has (filter place level))
    (here : places.has location) (name : Scalar) (level : Entries) :
    OnlyFaultsAt places.has (atProperty filter location name level) := by
  intro failure failed
  rcases bind_error_iff.mp failed with atName | ⟨place, named, later⟩
  · unfold propertyLocation at atName
    split at atName
    · refine ((Scalar.onlyFaultsAt_spelled location).bind fun _ => ?_) failure atName
      exact (Scalar.onlyFaultsAt_spelled name).bind fun _ => .ok _
    · cases atName
  · exact below (places.property here named) level failure later

theorem onlyFaultsAt_filterBelow {filter : Location → Entries → Except Failure Entries}
    (below : ∀ {place}, places.has place → ∀ level, OnlyFaultsAt places.has (filter place level))
    (here : places.has location) (properties : Entries) :
    OnlyFaultsAt places.has (filterBelow filter location properties) := by
  fun_induction filterBelow filter location properties with
  | case1 => exact .ok _
  | case2 name property rest ih =>
    exact (onlyFaultsAt_filterNested (onlyFaultsAt_atProperty places below here name) property).bind fun _ =>
      ih.bind fun _ => .ok _
  | case3 entry rest _ ih => exact ih.bind fun _ => .ok _

theorem onlyFaultsAt_filterLevels (below : Nat) (here : places.has location) (level : Entries) :
    OnlyFaultsAt places.has (filterLevels flag below location level) := by
  induction below generalizing location level with
  | zero => exact (onlyFaultsAt_pruneLevel flag here level).bind fun _ => .ok _
  | succ below ih =>
    exact (onlyFaultsAt_pruneLevel flag here level).bind fun _ =>
      (onlyFaultsAt_filterBelow places ih here _).bind fun _ => .ok _

theorem onlyFaultsAt_isPrimitive {places : Location → Prop} (type : Tree) :
    OnlyFaultsAt places (isPrimitive type) := by
  unfold isPrimitive
  split
  · exact .ok _
  · exact .ok _
  · split
    · exact .ok _
    · exact .error (.unexpected _)

theorem onlyFaultsAt_areAllPrimitive {places : Location → Prop} (types : List Tree) :
    OnlyFaultsAt places (areAllPrimitive types) := by
  induction types with
  | nil => exact .ok _
  | cons first rest ih =>
    refine (onlyFaultsAt_isPrimitive first).bind fun primitive => ?_
    cases primitive
    · exact .ok _
    · exact ih

theorem onlyFaultsAt_isUnstructured {places : Location → Prop} (schema : Entries) :
    OnlyFaultsAt places (isUnstructured schema) := by
  unfold isUnstructured
  split
  · exact .ok _
  · split
    · exact .ok _
    · exact .ok _
    · exact onlyFaultsAt_areAllPrimitive _
    · exact onlyFaultsAt_isPrimitive _

theorem confinedTo_filterTarget (below : Nat) (strict : Bool) (here : places.has location) (target : Entries) :
    (filterTarget flag below strict location target).ConfinedTo places.has := by
  unfold filterTarget
  split
  · exact .ofExcept (onlyFaultsAt_filterLevels flag places below here target)
  · refine .bind (.ofExcept (onlyFaultsAt_isUnstructured target)) fun unstructured => ?_
    split
    · exact .pure target
    · split
      · exact .throw (.malformed _ here)
      · exact .bind (.report _) fun _ => .pure target

theorem confinedTo_onTarget {places : Location → Prop} {change : Entries → Run Entries}
    (changes : ∀ target, (change target).ConfinedTo places) (here : places location) (schema : Entries) :
    (onTarget location schema change).ConfinedTo places := by
  unfold onTarget
  split
  · split
    · exact (changes _).bind fun _ => .pure _
    · exact .throw (.malformed _ here)
  · exact changes schema

theorem confinedTo_checkDepth {places : Location → Prop} (depth : Option Int) :
    (checkDepth depth).ConfinedTo places := by
  unfold checkDepth
  split
  · exact .pure ()
  · split
    · exact .throw (.unexpected _)
    · exact .pure ()

theorem confined_checkDepth (depth : Option Int) : (checkDepth depth).Confined :=
  Run.Confined.iff_confinedTo.mpr (confinedTo_checkDepth depth)

/-- **Filtering is confined to the schema**, and to the places inside it. -/
theorem confinedTo_filterSchema (depth : Option Int) (strict : Bool) (here : places.has location) (schema : Tree) :
    (filterSchema flag depth strict location schema).ConfinedTo places.has := by
  unfold filterSchema
  split
  · split
    · refine (confinedTo_checkDepth depth).bind fun _ => .bind ?_ fun filtered => .pure _
      exact confinedTo_onTarget (confinedTo_filterTarget flag places _ strict here) here _
    · exact .throw (.malformed _ here)
  · exact .pure _

theorem confined_filterSchema (depth : Option Int) (strict : Bool) (location : Location) (schema : Tree) :
    (filterSchema flag depth strict location schema).Confined :=
  (confinedTo_filterSchema flag .all depth strict trivial schema).confined

end Schema

end RouteCompiler
