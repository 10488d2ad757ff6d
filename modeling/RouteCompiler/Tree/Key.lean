/-
**Keys that are the same.**

A map has a key once, and keys are the same when they have the same value: a whole number, a fraction
without places and a truth value may be one key, and so may two spellings of a point in time. A key that is
there already keeps its spelling. A text is the same key as no other.

* `Scalar.isSameKey`: whether two keys are the same;
* `Entries.spelling`: how a map spells a key;
* `Entries.insert`, `Entries.merge`, `Entries.ofList`, `Entries.has`: the operations of ordered maps up to
  spelling;
* `Entries.spelling_str`: a text is spelled as it is.
-/

import RouteCompiler.Tree.Entries
import RouteCompiler.Tree.KeyOrder

namespace RouteCompiler

/-- Whether two keys are the same: they are equal, or they are of one kind with an order and none comes
before the other. -/
def Scalar.isSameKey (first second : Scalar) : Bool :=
  match first.keyKind, second.keyKind with
  | .number, .number =>
    first == second || (first.number != .nan && second.number != .nan &&
      !first.isBefore second && !second.isBefore first)
  | .time true, .time true => !first.isBefore second && !second.isBefore first
  | _, _ => first == second

theorem Scalar.isSameKey_str (text : String) (key : Scalar) :
    Scalar.isSameKey (.str text) key = true ↔ key = .str text := by
  have equality : Scalar.isSameKey (.str text) key = (Scalar.str text == key) := rfl
  rw [equality, beq_iff_eq, eq_comm]

namespace Entries

variable {α : Type}

/-- The spelling of a key in a map: the one that is there, or its own. -/
def spelling (entries : List (Scalar × α)) (key : Scalar) : Scalar :=
  ((OrderedMap.keys entries).find? (Scalar.isSameKey key)).getD key

/-- Sets a key. -/
def insert (entries : List (Scalar × α)) (key : Scalar) (value : α) : List (Scalar × α) :=
  OrderedMap.insert entries (spelling entries key) value

/-- Sets the keys of the second map in the first, from left to right. -/
def merge (base additions : List (Scalar × α)) : List (Scalar × α) :=
  additions.foldl (fun entries entry => insert entries entry.1 entry.2) base

/-- The map of a list of pairs. -/
def ofList (pairs : List (Scalar × α)) : List (Scalar × α) :=
  merge [] pairs

/-- Whether a map has a key. -/
def has (entries : List (Scalar × α)) (key : Scalar) : Bool :=
  OrderedMap.contains entries (spelling entries key)

/-! ### Texts as keys -/

theorem spelling_str (entries : List (Scalar × α)) (text : String) :
    spelling entries (.str text) = .str text := by
  unfold spelling
  cases found : (OrderedMap.keys entries).find? (Scalar.isSameKey (.str text)) with
  | none => rfl
  | some key => exact (Scalar.isSameKey_str text key).1 (List.find?_some found)

theorem insert_str (entries : List (Scalar × α)) (text : String) (value : α) :
    insert entries (.str text) value = OrderedMap.insert entries (.str text) value := by
  rw [insert, spelling_str]

end Entries

end RouteCompiler
