/-
**Parameters.**

The parameters of an operation are declared in a list, each with a name and the part of the request
that it is in. A route has one object schema for each part. A parameter that is declared again in the
same part replaces its first declaration and keeps its place among the properties; among the required
names it is moved to the end.

* `RequestPart`: the parts, as a document and as a route name them;
* `Parameter.ofTree`: a declaration, or what is wrong with it;
* `ParameterGroup.declare`: the parameters of one part after one more declaration;
* `groupParameters`: the declarations of a list by part;
* `parameterSchemas`: the schemas of a list of declarations.
-/

import RouteCompiler.Failure
import RouteCompiler.Tree.Entries

namespace RouteCompiler

/-! ### Parts of a request -/

/-- The parts of a request that hold parameters. -/
inductive RequestPart where
  /-- The path. -/
  | path
  /-- The query. -/
  | query
  /-- The headers. -/
  | header
  /-- The cookies. -/
  | cookie
  deriving DecidableEq, Repr

namespace RequestPart

/-- The parts. -/
def all : List RequestPart :=
  [.path, .query, .header, .cookie]

/-- The name of a part in a document. -/
def location : RequestPart → String
  | .path => "path"
  | .query => "query"
  | .header => "header"
  | .cookie => "cookie"

/-- The key of the schema of a part in a route. -/
def key : RequestPart → String
  | .path => "params"
  | .query => "querystring"
  | .header => "header"
  | .cookie => "cookie"

/-- The part that a value of a document names. -/
def ofTree (value : Tree) : Except Failure RequestPart :=
  match all.find? fun part => decide (value = .str part.location) with
  | some part => .ok part
  | none => do
    let location ← value.spelled
    throw (.malformed (.unsupportedLocation location) .null)

end RequestPart

/-! ### Declarations -/

/-- A declared parameter. -/
structure Parameter where
  part : RequestPart
  name : String
  schema : Tree
  isRequired : Bool
  deriving Repr

namespace Parameter

/-- The name of a parameter, which must be a text that is not empty. -/
def nameOf (entries : Entries) : Except Failure String :=
  match OrderedMap.get? entries "name" with
  | some (.str name) =>
    if name.isEmpty then .error (.malformed .parameterWithoutName .null) else .ok name
  | _ => .error (.malformed .parameterWithoutName .null)

/-- A part of a request, with the parameter as the place of a failure. -/
def partOf (name : String) (entries : Entries) : Except Failure RequestPart :=
  match RequestPart.ofTree ((OrderedMap.get? entries "in").getD (.str "")) with
  | .error (.malformed problem _) => .error (.malformed problem (.str ("parameter '" ++ name ++ "'")))
  | outcome => outcome

/-- The parameter that a part of a document declares. -/
def ofTree : Tree → Except Failure Parameter
  | .map entries => do
    let name ← nameOf entries
    let part ← partOf name entries
    return {
      part
      name
      schema := ((Tree.map entries).field "schema").orElse (.map [])
      isRequired :=
        decide (part = .path) || decide (OrderedMap.get? entries "required" = some (.bool true)) }
  | other => .error (.malformed (.parameterNotObject other.kind) .null)

end Parameter

/-! ### Groups -/

/-- The parameters of one part: their schemas by name, and the names of the required ones. -/
structure ParameterGroup where
  properties : List (String × Tree)
  required : List String
  deriving Repr

namespace ParameterGroup

/-- No parameters. -/
def empty : ParameterGroup :=
  ⟨[], []⟩

/-- The parameters after one more declaration. -/
def declare (group : ParameterGroup) (parameter : Parameter) : ParameterGroup where
  properties := OrderedMap.insert group.properties parameter.name parameter.schema
  required :=
    if parameter.isRequired then group.required.erase parameter.name ++ [parameter.name]
    else group.required.erase parameter.name

end ParameterGroup

/-- The parameters of each part after one more declaration. -/
def addParameter (groups : List (RequestPart × ParameterGroup)) (parameter : Parameter) :
    List (RequestPart × ParameterGroup) :=
  OrderedMap.insert groups parameter.part
    (((OrderedMap.get? groups parameter.part).getD .empty).declare parameter)

/-- The declared parameters by part. -/
def groupParameters (parameters : List Parameter) : List (RequestPart × ParameterGroup) :=
  parameters.foldl addParameter []

/-! ### Schemas -/

/-- The schema of an object with the given properties. Required names are listed if there are any. -/
def wrapObject (properties : Entries) (required : List Tree) : Entries :=
  let schema : Entries := [("type", .str "object"), ("properties", .map properties)]
  if required.isEmpty then schema else schema ++ [(.str "required", .list required)]

theorem get?_wrapObject_type (properties : Entries) (required : List Tree) :
    OrderedMap.get? (wrapObject properties required) "type" = some (.str "object") := by
  cases required <;> rfl

theorem get?_wrapObject_properties (properties : Entries) (required : List Tree) :
    OrderedMap.get? (wrapObject properties required) "properties" = some (.map properties) := by
  cases required <;> rfl

theorem get?_wrapObject_required (properties : Entries) (required : List Tree) :
    OrderedMap.get? (wrapObject properties required) "required" =
      if required = [] then none else some (.list required) := by
  cases required <;> rfl

/-- The schema of the parameters of one part. -/
def ParameterGroup.schema (deriveRequired : Bool) (group : ParameterGroup) : Tree :=
  .map (wrapObject (group.properties.map fun property => (.str property.1, property.2))
    (if deriveRequired then group.required.map .str else []))

/-- The schemas of parameters by part. -/
def schemasOf (deriveRequired : Bool) (parameters : List Parameter) : Entries :=
  (groupParameters parameters).map fun group => (.str group.1.key, group.2.schema deriveRequired)

/-- The declarations in a tree. None are needed. -/
def declarations (parameters : Tree) : Except Failure (List Tree) :=
  if parameters.isTruthy then
    match parameters.elements? with
    | some declarations => .ok declarations
    | none => .error (.unexpected (.notIterable parameters.kind))
  else .ok []

/-- The schemas of a list of declarations, by part of the request. -/
def parameterSchemas (deriveRequired : Bool) (declared : List Tree) : Except Failure Entries := do
  let parameters ← declared.mapM Parameter.ofTree
  return schemasOf deriveRequired parameters

end RouteCompiler
