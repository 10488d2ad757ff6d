/-
**Resolving a document that is part of itself.**

Resolving goes through a document from its start and inlines what it meets. In a document that is part of itself it
fails as in any other if the cause lies before the first place that comes up again, and at that place it never
ends. The document is taken as the tree with knots, whose knots are references in a circle under a name of their own:
to come to one of them, while resolving or while looking for references that remain, is to come to no end.

* `Endless.toTree`, `Endless.components`: the tree with knots of a document, and its components;
* `Endless.knot`: the name of the knots;
* `resolveEndless`: the document without references, or why there is none;
* `resolveParsed`: the same for whatever is read.
-/

import RouteCompiler.Reference.Document
import RouteCompiler.Yaml.Endless

namespace RouteCompiler

namespace Yaml.Endless

/-- The tree of a document with a tree for its knots. -/
def toTree (document : Endless) (knot : Tree) : Tree :=
  unfold document.made knot (document.made.size + 1) [] document.root

/-- The components of a document with a tree for its knots. The mappings down to the components are open, so each
component is unfolded for itself. -/
def components (document : Endless) (knot : Tree) : Tree :=
  componentsOf (withComponents ((opened document.made knot 3 document.root).entries?.getD []))

/-- The name of the knots of a document, which is longer than any reference in it and is no pointer to a component. -/
def knot (document : Endless) : Pointer :=
  "~" ++ String.join (occurrences (document.toTree .null) ++ occurrences (document.components .null))

end Yaml.Endless

/-- A reference. -/
def referenceTo (pointer : Pointer) : Tree :=
  .map [(refKey, .str pointer)]

/-- The component that stands for a knot: a reference to itself. -/
def knotComponent (knot : Pointer) : Component :=
  ⟨knot, "", "", referenceTo knot⟩

/-- A failure at a knot has no end, and any other is what it is. -/
def knotted (knot : Pointer) (failure : Failure) : Failure :=
  match failure with
  | .cyclic chain => if knot ∈ chain then .unexpected (.noValue .endless) else failure
  | .unresolved references => if knot ∈ references then .unexpected (.noValue .endless) else failure
  | other => other

/-- The document with every reference to a component inlined, a document that is part of itself. -/
def resolveEndless (document : Yaml.Endless) : Run Tree :=
  let knot := document.knot
  match document.toTree (referenceTo knot) with
  | .map entries => do
    let registry ← Run.ofExcept (Registry.ofComponents (document.components (referenceTo knot)))
    Run.report (.registered registry.length)
    let (outcome, memo) := Registry.step (registry ++ [knotComponent knot]) .empty (.map (withComponents entries))
    Run.reportAll ((memo.inlined.filter (· ≠ knot)).map .inlining)
    let resolved ← Run.ofExcept (outcome.mapError (knotted knot))
    if (references resolved).isEmpty then return resolved
    else throw (knotted knot (.unresolved (references resolved)))
  | other => throw (.unexpected (.notAnObject other.kind))

/-- What is read with every reference to a component inlined. -/
def resolveParsed : Yaml.Parsed → Run Tree
  | .tree document => resolveDocument document
  | .endless document => resolveEndless document

end RouteCompiler
