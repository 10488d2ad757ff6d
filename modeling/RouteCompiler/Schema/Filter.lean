/-
**Schemas without the properties of one side.**

A property flagged `readOnly` is not to be sent and one flagged `writeOnly` is not to be returned. A
filter removes the properties with one flag, together with their names among the required ones, from
the first levels of a schema. The first level is the schema, or its items when it describes an array;
a property that has properties of its own, or whose items have, is on the next level. All else stays
as it is and where it is.

* `Flag`: the two flags;
* `pruneLevel`: one level without the flagged properties;
* `filterLevels`: a level and a number of levels below it;
* `filterSchema`: a schema as it is used in a request or an answer, or why it has no such form.
-/

import RouteCompiler.Event
import RouteCompiler.Schema.Shape
import RouteCompiler.Tree.Key

namespace RouteCompiler.Schema

/-- What a property can be reserved for. -/
inductive Flag where
  /-- The property is only returned. -/
  | readOnly
  /-- The property is only sent. -/
  | writeOnly
  deriving DecidableEq, Repr

/-- The key of a flag. -/
def Flag.key : Flag → Scalar
  | .readOnly => "readOnly"
  | .writeOnly => "writeOnly"

/-- Whether a property has a flag. Nothing but the truth value sets it. -/
def Flag.marks (flag : Flag) (property : Entries) : Bool :=
  decide (OrderedMap.get? property flag.key = some (.bool true))

/-! ### One level -/

/-- The properties without a flag. Each must be an object. -/
def keptProperties (flag : Flag) (location : Location) : Entries → Except Failure Entries
  | [] => .ok []
  | (name, .map property) :: rest => do
    let kept ← keptProperties flag location rest
    return if flag.marks property then kept else (name, .map property) :: kept
  | (name, _) :: _ => .error (.ofProblem (.propertyNotObject name) location)

/-- The required names that are names of kept properties. A container is no name. -/
def keptNames (kept : Entries) : List Tree → Except Failure (List Tree)
  | [] => .ok []
  | .scalar name :: rest => do
    let names ← keptNames kept rest
    return if Entries.has kept name then .scalar name :: names else names
  | other :: rest =>
    if other.isComparable then keptNames kept rest
    else .error (.unexpected (.notComparable other.kind))

/-- The properties of a level without the flagged ones. -/
def levelProperties (flag : Flag) (location : Location) (level : Entries) : Except Failure Entries :=
  match OrderedMap.get? level propertiesKey with
  | some (.map properties) => keptProperties flag location properties
  | _ => .error (.ofProblem .withoutProperties location)

/-- A level with the given properties, and with their names alone among the required ones. -/
def withProperties (location : Location) (level kept : Entries) : Except Failure Entries :=
  let replaced := OrderedMap.insert level propertiesKey (.map kept)
  match OrderedMap.get? level requiredKey with
  | none => .ok replaced
  | some (.list names) => do
    let names ← keptNames kept names
    return OrderedMap.insert replaced requiredKey (.list names)
  | some _ => .error (.ofProblem .requiredNotList location)

/-- A level without the flagged properties. -/
def pruneLevel (flag : Flag) (location : Location) (level : Entries) :
    Except Failure (Entries × Entries) := do
  let kept ← levelProperties flag location level
  let pruned ← withProperties location level kept
  return (pruned, kept)

/-! ### Levels below -/

/-- The place of a property inside the place of its schema. -/
def propertyLocation (location : Location) (name : Scalar) : Except Failure Location :=
  if location.isTruthy then do
    let place ← location.spelled
    let name ← name.spelled
    return .str (place ++ "." ++ name)
  else .ok name

/-- Filters the level of a property at its place. -/
def atProperty (filter : Location → Entries → Except Failure Entries) (location : Location)
    (name : Scalar) (level : Entries) : Except Failure Entries := do
  let location ← propertyLocation location name
  filter location level

/-- Filters the level that a property opens: the property itself or the items of an array, if it has
properties of its own. -/
def filterNested (filter : Entries → Except Failure Entries) (property : Entries) :
    Except Failure Entries :=
  if describesArray property then
    match OrderedMap.get? property itemsKey with
    | some (.map items) => do
      if OrderedMap.contains items propertiesKey then
        let items ← filter items
        return OrderedMap.insert property itemsKey (.map items)
      else return property
    | _ => .ok property
  else if OrderedMap.contains property propertiesKey then filter property
  else .ok property

/-- Filters the levels that properties open, in order. -/
def filterBelow (filter : Location → Entries → Except Failure Entries) (location : Location) :
    Entries → Except Failure Entries
  | [] => .ok []
  | (name, .map property) :: rest => do
    let property ← filterNested (atProperty filter location name) property
    let rest ← filterBelow filter location rest
    return (name, .map property) :: rest
  | entry :: rest => do
    let rest ← filterBelow filter location rest
    return entry :: rest

/-- Filters a level and `below` levels under it. -/
def filterLevels (flag : Flag) : (below : Nat) → Location → Entries → Except Failure Entries
  | 0, location, level => do
    let (pruned, _) ← pruneLevel flag location level
    return pruned
  | below + 1, location, level => do
    let (pruned, kept) ← pruneLevel flag location level
    let kept ← filterBelow (filterLevels flag below) location kept
    return OrderedMap.insert pruned propertiesKey (.map kept)

/-! ### Schemas -/

/-- Applies a function to the level that a schema opens: the schema itself or the items of an array. -/
def onTarget (location : Location) (schema : Entries) (change : Entries → Run Entries) : Run Entries :=
  if describesArray schema then
    match OrderedMap.get? schema itemsKey with
    | some (.map items) => do
      let items ← change items
      return OrderedMap.insert schema itemsKey (.map items)
    | _ => throw (.malformed .arrayWithoutItems location)
  else change schema

/-- Filters the first level of a schema and `below` levels under it. A level that needs no properties
and has none is left alone; so is every level without properties when the filter is not strict, but
that is reported. -/
def filterTarget (flag : Flag) (below : Nat) (strict : Bool) (location : Location) (target : Entries) :
    Run Entries :=
  if OrderedMap.contains target propertiesKey then
    Run.ofExcept (filterLevels flag below location target)
  else do
    if ← Run.ofExcept (isUnstructured target) then return target
    else if strict then throw (.malformed .withoutProperties location)
    else
      Run.report (.leftUnfiltered location)
      return target

/-- How many levels below the first a depth reaches: without a limit, as many as the schema can have. -/
def levelsBelow (depth : Option Int) (schema : Entries) : Nat :=
  match depth with
  | some depth => (depth - 1).toNat
  | none => (Tree.map schema).height

/-- Refuses a depth that leaves no level to filter. -/
def checkDepth : Option Int → Run Unit
  | none => return ()
  | some depth => if depth < 1 then throw (.unexpected (.depthBelowOne depth)) else return ()

/-- A schema without the properties that have a flag, down to a depth or without a limit. -/
def filterSchema (flag : Flag) (depth : Option Int) (strict : Bool) (location : Location) (schema : Tree) :
    Run Tree :=
  if schema.isTruthy then
    match schema with
    | .map entries => do
      checkDepth depth
      let filtered ← onTarget location entries
        (filterTarget flag (levelsBelow depth entries) strict location)
      return .map filtered
    | other => throw (.malformed (.schemaNotObject other.kind) location)
  else return .map []

end RouteCompiler.Schema
