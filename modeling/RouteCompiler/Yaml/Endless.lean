/-
**Collections that are part of themselves.**

An alias may stand inside the node that it names, and the collection that is made of the node is then part of itself.
It has a kind, entries and a spelling like any other, but whoever goes down into it comes to the same place again.
As a tree it is shown as far as that place, where the tree has a knot in its stead.

A path never has a node twice before the knot, so it is never longer than the number of nodes.

* `Endless.entries?`: the entries of a mapping;
* `Parsed.kind`, `Parsed.isMap`, `Parsed.spelled`: what messages and checks see of what is read;
* `unfold`: the tree below a node with knots;
* `opened`: the same below the first levels, each part of which is unfolded for itself.
-/

import RouteCompiler.Failure
import RouteCompiler.Yaml.Document

namespace RouteCompiler.Yaml

/-! ### Entries and kinds -/

namespace Endless

/-- The entries of a collection that is a mapping. -/
def entries? (collection : Endless) : Option (List (Scalar × Parsed)) :=
  match collection.made[collection.root]?.join with
  | some (.map entries) => some ((Entries.ofList entries).map fun (key, value) => (key, .ofNode collection.made value))
  | _ => none

/-- The kind of a collection, as messages name it. -/
def kind (collection : Endless) : String :=
  if collection.entries?.isSome then (Tree.map []).kind else (Tree.list []).kind

end Endless

/-- The kind of what is read, as messages name it. -/
def Parsed.kind : Parsed → String
  | .tree whole => whole.kind
  | .endless collection => collection.kind

/-- Whether what is read is an object. -/
def Parsed.isMap : Parsed → Bool
  | .tree whole => whole.entries?.isSome
  | .endless collection => collection.entries?.isSome

/-! ### Knots -/

/-- What a place inside an entry by itself has for a knot. It has no text, so no document with it can be written. -/
def hiddenKnot : Tree :=
  .map [(.bytes [], .null)]

/-- The tree below a node, with a knot for each node that is on the path to it already. -/
def unfold (made : Array (Option Made)) (knot : Tree) : (fuel : Nat) → (path : List NodeId) → NodeId → Tree
  | 0, _, _ => knot
  | fuel + 1, path, id =>
    if id ∈ path then knot
    else
      match made[id]?.join with
      | none => .null
      | some (.scalar value) => .scalar value
      | some (.list items) => .list (items.map (unfold made knot fuel (id :: path)))
      | some (.map entries) =>
        .map ((Entries.ofList entries).map fun (key, value) => (key, unfold made knot fuel (id :: path) value))
      | some (.pairs entries) =>
        .list (entries.map fun (key, value) =>
          .pair (unfold made hiddenKnot fuel (id :: path) key) (unfold made hiddenKnot fuel (id :: path) value))
      | some (.set members) => .set members

/-- The tree below a node whose first levels of mappings are open: what is below these levels is unfolded for itself,
whatever is above it. -/
def opened (made : Array (Option Made)) (knot : Tree) : (levels : Nat) → NodeId → Tree
  | 0, id => unfold made knot (made.size + 1) [] id
  | levels + 1, id =>
    match made[id]?.join with
    | some (.map entries) =>
      .map ((Entries.ofList entries).map fun (key, value) => (key, opened made knot levels value))
    | _ => unfold made knot (made.size + 1) [] id

/-! ### Spelling -/

/-- The spelling of what is below a node inside a collection. What is on the path already is spelled by dots. -/
def literalOf (made : Array (Option Made)) : (fuel : Nat) → (path : List NodeId) → NodeId → String
  | 0, _, _ => ""
  | fuel + 1, path, id =>
    let below := literalOf made fuel (id :: path)
    match made[id]?.join with
    | none => Scalar.null.literal
    | some (.scalar value) => value.literal
    | some (.list items) => if id ∈ path then "[...]" else "[" ++ ", ".intercalate (items.map below) ++ "]"
    | some (.map entries) =>
      if id ∈ path then "\x7b...\x7d"
      else
        "\x7b" ++ ", ".intercalate ((Entries.ofList entries).map fun (key, value) =>
          key.literal ++ ": " ++ below value) ++ "\x7d"
    | some (.pairs entries) =>
      if id ∈ path then "[...]"
      else
        "[" ++ ", ".intercalate (entries.map fun (key, value) => "(" ++ below key ++ ", " ++ below value ++ ")") ++ "]"
    | some (.set members) => setLiteral (members.map Scalar.literal)

/-- The text of a collection in a message. Every scalar in it occurs in its tree with knots. -/
def Endless.spelled (collection : Endless) : Except Failure String :=
  if (unfold collection.made .null (collection.made.size + 1) [] collection.root).isSpellable then
    .ok (literalOf collection.made (collection.made.size + 1) [] collection.root)
  else .error (.unexpected .numberTooLong)

/-- The text of what is read in a message. -/
def Parsed.spelled : Parsed → Except Failure String
  | .tree whole => whole.spelled
  | .endless collection => collection.spelled

end RouteCompiler.Yaml
