/-
**The entries of a map in a document.**

* `Entries`: ordered entries with scalar keys;
* `Tree.get?`: the value of a key of a map, nothing for any other tree;
* `Tree.field`: the same with the absent value where there is none;
* `Tree.WellKeyed`: no map of the tree has a key twice, which every reader guarantees;
* `Tree.elements?`: what iterating over a tree yields.
-/

import RouteCompiler.OrderedMap
import RouteCompiler.Tree.Basic

namespace RouteCompiler

/-- Entries of a map of a document. -/
abbrev Entries := List (Scalar × Tree)

namespace Tree

/-- The value of a key, if the tree is a map that has it. -/
def get? : Tree → Scalar → Option Tree
  | .map entries, key => OrderedMap.get? entries key
  | _, _ => none

/-- The value of a key, absent when the tree is no map or lacks it. -/
def field (tree : Tree) (key : Scalar) : Tree :=
  (tree.get? key).getD .null

@[simp] theorem get?_map (entries : Entries) (key : Scalar) :
    (Tree.map entries).get? key = OrderedMap.get? entries key :=
  rfl

/-! ### Distinct keys -/

mutual

/-- No map of the tree has a key twice. -/
def WellKeyed : Tree → Prop
  | .scalar _ => True
  | .list items => WellKeyedItems items
  | .map entries => OrderedMap.Distinct entries ∧ WellKeyedValues entries
  | .pair .. => True
  | .set _ => True

/-- Every item is well keyed. -/
def WellKeyedItems : List Tree → Prop
  | [] => True
  | item :: rest => item.WellKeyed ∧ WellKeyedItems rest

/-- Every value is well keyed. -/
def WellKeyedValues : List (Scalar × Tree) → Prop
  | [] => True
  | (_, value) :: rest => value.WellKeyed ∧ WellKeyedValues rest

end

theorem wellKeyedValues_iff (entries : Entries) :
    WellKeyedValues entries ↔ ∀ entry ∈ entries, entry.2.WellKeyed := by
  induction entries with
  | nil => simp [WellKeyedValues]
  | cons entry rest ih => simp [WellKeyedValues, ih]

/-! ### Iteration -/

/-- What iterating over a tree yields: the items of a list, the keys of a map, the members of a set, the
parts of an entry, the characters of a text, the bytes of a value of bytes. Nothing else can be iterated
over. -/
def elements? : Tree → Option (List Tree)
  | .list items => some items
  | .map entries => some (entries.map fun entry => .scalar entry.1)
  | .pair key value => some [key, value]
  | .set members => some (members.map .scalar)
  | .str text => some (text.toList.map fun c => .str (String.singleton c))
  | .scalar (.bytes content) => some (content.map fun byte => .int byte.toNat)
  | _ => none

/-- Whether a tree can be compared with keys: a scalar, or an entry of such. -/
def isComparable : Tree → Bool
  | .scalar _ => true
  | .list _ => false
  | .map _ => false
  | .pair key value => key.isComparable && value.isComparable
  | .set _ => false

end Tree

end RouteCompiler
