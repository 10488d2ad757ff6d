/-
**Replacing references in a tree.**

A tree is rebuilt with every known reference replaced. What a reference stands for comes from the
caller, so one traversal serves every way of resolving. A reference with sibling keys is spliced: the
keys of the component take the place of `$ref`, and of two values for a key the later one wins. What a
reference stands for is asked for before the siblings are rebuilt.

* `splice`: the entries of a reference together with those of its component;
* `expand`: a tree with its known references replaced.
-/

import RouteCompiler.Reference.Occurrence
import RouteCompiler.Tree.Key

namespace RouteCompiler

/-- The entries of a reference with those of its component in the place of `$ref`. -/
def splice (content entries : Entries) : Entries :=
  entries.foldl
    (fun spliced entry =>
      if entry.1 = refKey then Entries.merge spliced content
      else Entries.insert spliced entry.1 entry.2)
    []

/-- The keys of a reference beside `$ref`. -/
def siblings (entries : Entries) : List Scalar :=
  (OrderedMap.keys entries).filter fun key => decide (key ≠ refKey)

/-- The failure of a reference with sibling keys whose component is no object. It lists the keys in
order, so they must have one. -/
def siblingFailure (pointer : Pointer) (entries : Entries) : Failure :=
  match sortKeys? (siblings entries) with
  | some keys => .ofProblem (.siblingsOfValue keys) pointer
  | none => .unexpected .notSortable

/-- A reference and what it stands for, if it is known. -/
def known? {m : Type → Type} (inline? : Pointer → Option (m Tree)) (entries : Entries) :
    Option (Pointer × m Tree) :=
  (reference? entries).bind fun pointer => (inline? pointer).map fun content => (pointer, content)

section

variable {m : Type → Type} [Monad m] [MonadExceptOf Failure m]

mutual

/-- A tree with every known reference replaced by what it stands for. -/
def expand (inline? : Pointer → Option (m Tree)) : Tree → m Tree
  | .scalar value => pure (.scalar value)
  | .pair key value => pure (.pair key value)
  | .set members => pure (.set members)
  | .list items => do
    let items ← expandItems inline? items
    return .list items
  | .map entries =>
    match known? inline? entries with
    | none => do
      let entries ← expandEntries inline? entries
      return .map entries
    | some (pointer, resolve) => do
      match ← resolve with
      | .map content =>
        let entries ← expandEntries inline? entries
        return .map (splice content entries)
      | value =>
        if 1 < entries.length then throw (siblingFailure pointer entries)
        else return value

/-- Items with every known reference replaced. -/
def expandItems (inline? : Pointer → Option (m Tree)) : List Tree → m (List Tree)
  | [] => pure []
  | item :: rest => do
    let item ← expand inline? item
    let rest ← expandItems inline? rest
    return item :: rest

/-- Entries with every known reference inside their values replaced. -/
def expandEntries (inline? : Pointer → Option (m Tree)) :
    List (Scalar × Tree) → m (List (Scalar × Tree))
  | [] => pure []
  | (key, value) :: rest => do
    let value ← expand inline? value
    let rest ← expandEntries inline? rest
    return (key, value) :: rest

end

end

end RouteCompiler
