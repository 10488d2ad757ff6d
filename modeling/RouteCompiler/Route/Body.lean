/-
**Schemas of bodies.**

Only JSON content is checked, so the schema of a body is that of the first media type in the settings
for which the document has an entry. A request is checked against its schema without the properties
that are only returned, an answer against its schema without those that are only sent.

* `jsonSchema?`: the schema of the JSON content of a body or an answer, if it has such content;
* `requestBody`: the schema of a request, under `body`;
* `responses`: the schemas of the answers by status, under `response`.
-/

import RouteCompiler.Schema.Filter
import RouteCompiler.Settings.Basic

namespace RouteCompiler

/-! ### JSON content -/

/-- The first of the media types that has an entry, with the entry. An absent entry counts as none. -/
def firstMedia? (content : Entries) : List String → Option Tree
  | [] => none
  | type :: rest =>
    match OrderedMap.get? content (.str type) with
    | none => firstMedia? content rest
    | some .null => firstMedia? content rest
    | some media => some media

/-- The schema of an entry for a media type. One that says nothing allows everything. -/
def mediaSchema (media : Tree) : Tree :=
  (media.field "schema").orElse (.map [])

/-- The schema of the JSON content of a part of a document, if it has such content. -/
def jsonSchema? (types : List String) (node : Tree) : Option Tree :=
  match node.get? "content" with
  | some (.map content) => (firstMedia? content types).map mediaSchema
  | _ => none

/-! ### Requests and answers -/

/-- A place named inside another one. -/
def placeWithin (location : Location) (place : String) : Location :=
  if location.isTruthy then .str (location.display ++ " " ++ place) else .str place

/-- The schema of a request, if it has JSON content. -/
def requestBody (settings : Settings) (location : Location) (body : Tree) : Run Entries :=
  match jsonSchema? settings.jsonMediaTypes body with
  | none => return []
  | some schema => do
    let filtered ← Schema.filterSchema .readOnly settings.filterDepth settings.strictSchemas
      (placeWithin location "requestBody") schema
    return [("body", filtered)]

/-- The schema of an answer, if it has JSON content. -/
def responseSchema (settings : Settings) (location : Location) (status : Scalar) (response : Tree) :
    Run (Option Tree) :=
  match jsonSchema? settings.jsonMediaTypes response with
  | none => return none
  | some schema => do
    let status ← Run.ofExcept status.spelled
    let filtered ← Schema.filterSchema .writeOnly settings.filterDepth settings.strictSchemas
      (placeWithin location ("response " ++ status)) schema
    return some filtered

/-- The schemas of answers by the text of their status, added to those collected before. -/
def collectResponses (settings : Settings) (location : Location) (collected : Entries) :
    Entries → Run Entries
  | [] => return collected
  | (status, response) :: rest => do
    match ← responseSchema settings location status response with
    | none => collectResponses settings location collected rest
    | some schema =>
      collectResponses settings location
        (OrderedMap.insert collected (.str status.display) schema) rest

/-- The schemas of the answers, if one of them has JSON content. -/
def responses (settings : Settings) (location : Location) (answers : Tree) : Run Entries :=
  if answers.isTruthy then
    match answers with
    | .map entries => do
      let collected ← collectResponses settings location [] entries
      return if collected.isEmpty then [] else [("response", .map collected)]
    | other => throw (.unexpected (.notAnObject other.kind))
  else return []

end RouteCompiler
