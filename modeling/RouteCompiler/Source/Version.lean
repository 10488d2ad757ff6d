/-
**The version that a document follows.**

Documents of version three are compiled. One of an older standard, one without a version and one of
another version are refused; a later minor version than the first is compiled with a warning. What is no
object names no version, and that is not expected.

* `versionOfFields`: the version that the values of the two keys for it name;
* `versionOf`, `openApiVersion`: the version of a document.
-/

import RouteCompiler.Event
import RouteCompiler.Yaml.Endless

namespace RouteCompiler

/-- The version that the value of `openapi` names, unless there is a value of `swagger`. -/
def versionOfFields (swagger : Option Yaml.Parsed) (openApi : Yaml.Parsed) : Except Failure String :=
  match swagger, openApi with
  | some version, _ => do
    let version ← version.spelled
    throw (.document (.swagger version))
  | none, .tree .null => .error (.document .versionMissing)
  | none, version => do
    let version ← version.spelled
    if version.startsWith "3." then return version else throw (.document (.versionUnsupported version))

/-- The version that the entries of a document name. -/
def versionOfEntries (entries : List (Scalar × Yaml.Parsed)) : Except Failure String :=
  versionOfFields (OrderedMap.get? entries "swagger") ((OrderedMap.get? entries "openapi").getD (.tree .null))

/-- The version that a document names. A text or a list can be looked through for it, but has no entries. -/
def versionOf : Yaml.Parsed → Except Failure String
  | .tree (.map entries) => versionOfEntries (entries.map fun (key, value) => (key, .tree value))
  | .tree (.list items) => .error (.unexpected (.notAnObject (Tree.list items).kind))
  | .tree (.str text) => .error (.unexpected (.notAnObject (Tree.str text).kind))
  | .tree other => .error (.unexpected (.notIterable other.kind))
  | .endless collection =>
    match collection.entries? with
    | some entries => versionOfEntries entries
    | none => .error (.unexpected (.notAnObject collection.kind))

/-- The version of a document. -/
def openApiVersion (document : Yaml.Parsed) : Run String := do
  let version ← Run.ofExcept (versionOf document)
  if !version.startsWith "3.0." then Run.report (.laterVersion version)
  return version

end RouteCompiler
