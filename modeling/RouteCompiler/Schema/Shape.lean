/-
**Shapes of schemas.**

The fields that describe an object stand in its schema; those of an array stand in the schema of its
items. A schema may also describe no object at all: a value without parts, or a combination of other
schemas.

* `describesArray`: whether a schema describes an array;
* `isUnstructured`: whether a schema needs no properties; a type that is a container cannot be told;
* `isPrimitive`: the types of values without parts.
-/

import RouteCompiler.Failure
import RouteCompiler.Tree.Entries

namespace RouteCompiler.Schema

/-! ### Keys -/

/-- The key of the type. -/
def typeKey : Scalar :=
  "type"

/-- The key of the schema of the items of an array. -/
def itemsKey : Scalar :=
  "items"

/-- The key of the schemas of the properties of an object. -/
def propertiesKey : Scalar :=
  "properties"

/-- The key of the names of the properties that must be present. -/
def requiredKey : Scalar :=
  "required"

/-- The keys of a schema that is composed of others. -/
def compositionKeys : List Scalar :=
  ["allOf", "anyOf", "oneOf", "not", "additionalProperties"]

/-- The types of values without parts. -/
def primitiveTypes : List Scalar :=
  ["string", "number", "integer", "boolean", "null"]

/-! ### Tests -/

/-- Whether a schema describes an array. -/
def describesArray (schema : Entries) : Bool :=
  decide (OrderedMap.get? schema typeKey = some (.str "array"))

/-- Whether a type is that of values without parts. A container is not a type. -/
def isPrimitive : Tree → Except Failure Bool
  | .scalar name => .ok (decide (name ∈ primitiveTypes))
  | .set _ => .ok false
  | other =>
    if other.isComparable then .ok false else .error (.unexpected (.notComparable other.kind))

/-- Whether all types are of values without parts. The first that is not decides. -/
def areAllPrimitive : List Tree → Except Failure Bool
  | [] => .ok true
  | first :: rest => do
    if ← isPrimitive first then areAllPrimitive rest else return false

/-- Whether a schema rightly has no properties: it is composed of others, or it describes values
without parts. -/
def isUnstructured (schema : Entries) : Except Failure Bool :=
  if compositionKeys.any (OrderedMap.contains schema) then .ok true
  else
    match OrderedMap.get? schema typeKey with
    | none => .ok false
    | some (.list []) => .ok false
    | some (.list types) => areAllPrimitive types
    | some type => isPrimitive type

end RouteCompiler.Schema
