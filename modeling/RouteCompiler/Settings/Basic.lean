/-
**Settings.**

Four settings steer how schemas are made from a document. The first level is always filtered and at
least one media type counts as JSON, so neither can be set otherwise.

* `Settings`: the settings;
* `Settings.default`: what holds where nothing is set;
* `Settings.toTree`: the settings as a document.
-/

import RouteCompiler.Tree.Entries

namespace RouteCompiler

/-- How schemas are made from a document. -/
structure Settings where
  /-- How many levels of a schema are filtered, or nothing for all. -/
  filterDepth : Option Int
  /-- Whether a schema without properties to filter is refused. -/
  strictSchemas : Bool
  /-- Whether the schemas of parameters list the required names. -/
  deriveRequired : Bool
  /-- The media types that count as JSON, the preferred first. -/
  jsonMediaTypes : List String
  /-- A depth leaves a level to filter. -/
  one_le_filterDepth : ∀ depth ∈ filterDepth, 1 ≤ depth
  /-- Some media type counts as JSON. -/
  jsonMediaTypes_ne_nil : jsonMediaTypes ≠ []

namespace Settings

/-- What holds where nothing is set. -/
def default : Settings where
  filterDepth := some 1
  strictSchemas := true
  deriveRequired := false
  jsonMediaTypes := ["application/json"]
  one_le_filterDepth := by simp
  jsonMediaTypes_ne_nil := by simp

instance : Inhabited Settings :=
  ⟨default⟩

/-! ### Names -/

/-- The name of the depth. -/
def filterDepthName : String :=
  "filter_depth"

/-- The name of the choice to refuse schemas without properties. -/
def strictSchemasName : String :=
  "strict_schemas"

/-- The name of the choice to list required names. -/
def deriveRequiredName : String :=
  "derive_required"

/-- The name of the list of media types. -/
def jsonMediaTypesName : String :=
  "json_media_types"

/-- The names of the settings in their order. -/
def names : List String :=
  [filterDepthName, strictSchemasName, deriveRequiredName, jsonMediaTypesName]

/-- The settings as a document. -/
def toTree (settings : Settings) : Tree :=
  .map [
    (filterDepthName, (settings.filterDepth.map Tree.int).getD .null),
    (strictSchemasName, .bool settings.strictSchemas),
    (deriveRequiredName, .bool settings.deriveRequired),
    (jsonMediaTypesName, .list (settings.jsonMediaTypes.map .str))]

end Settings

end RouteCompiler
