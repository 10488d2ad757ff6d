/-
**Resolving the references of a document.**

The components of a document are registered, every reference to one of them is inlined, and a document
in which references remain is refused with the list of them.

* `withComponents`: a document without components is one with no components;
* `resolveDocument`: the document without references, or why there is none.
-/

import RouteCompiler.Event
import RouteCompiler.Reference.Inline

namespace RouteCompiler

/-- The entries of a document with its components, which may be left out or absent. -/
def withComponents (entries : Entries) : Entries :=
  if OrderedMap.get? entries "components" = none ∨ OrderedMap.get? entries "components" = some .null then
    OrderedMap.insert entries "components" (.map [])
  else entries

/-- The components of a document. -/
def componentsOf (entries : Entries) : Tree :=
  (OrderedMap.get? entries "components").getD (.map [])

/-- The document with every reference to a component inlined. -/
def resolveDocument (document : Tree) : Run Tree :=
  match document with
  | .map entries => do
    let entries := withComponents entries
    let registry ← Run.ofExcept (Registry.ofComponents (componentsOf entries))
    Run.report (.registered registry.length)
    let (outcome, memo) := registry.step .empty (.map entries)
    Run.reportAll (memo.inlined.map .inlining)
    let resolved ← Run.ofExcept outcome
    if (references resolved).isEmpty then return resolved
    else throw (.unresolved (references resolved))
  | other => throw (.unexpected (.notAnObject other.kind))

end RouteCompiler
