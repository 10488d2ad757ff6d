/-
**Document trees.**

A parsed document is a finite tree of scalars, lists and maps. The order of a map's entries is part
of the document, and a key may be any scalar: a status code of a response may be written as a number.
Two more kinds of values are rare: a list may hold entries, and there are sets of keys. They are passed
on as they are, and what is inside them is no part of the document's structure.

* `Scalar`, `Tree`: the values of a document;
* `Tree.kind`, `Tree.isTruthy`: the kind that a message names, and the values that count as absent;
* `Tree.height`: how deep containers are nested;
* `Tree.induct`: induction over a tree with one hypothesis for each member of a container.
-/

import RouteCompiler.Number.Binary64
import RouteCompiler.Tree.Stamp

namespace RouteCompiler

/-- A value without parts. -/
inductive Scalar where
  /-- The absent value. -/
  | null
  /-- A truth value. -/
  | bool (value : Bool)
  /-- A whole number of any size. -/
  | int (value : Int)
  /-- A fractional number. -/
  | float (value : Binary64)
  /-- A text. -/
  | str (text : String)
  /-- A day or a point in time. -/
  | stamp (stamp : Stamp)
  /-- Bytes that stand for no text. -/
  | bytes (content : List UInt8)
  deriving DecidableEq, Repr, Inhabited

instance : Coe String Scalar :=
  ⟨.str⟩

/-- A document or a part of one. The entries of a map are kept in order. -/
inductive Tree where
  /-- A value without parts. -/
  | scalar (value : Scalar)
  /-- Items in order. -/
  | list (items : List Tree)
  /-- Entries of a key and a value, in order. -/
  | map (entries : List (Scalar × Tree))
  /-- An entry that is an item of a list by itself. -/
  | pair (key value : Tree)
  /-- Keys without values. -/
  | set (members : List Scalar)
  deriving Repr, Inhabited

namespace Tree

/-- The absent value. -/
@[match_pattern] abbrev null : Tree := .scalar .null

/-- A truth value. -/
@[match_pattern] abbrev bool (value : Bool) : Tree := .scalar (.bool value)

/-- A whole number. -/
@[match_pattern] abbrev int (value : Int) : Tree := .scalar (.int value)

/-- A fractional number. -/
@[match_pattern] abbrev float (value : Binary64) : Tree := .scalar (.float value)

/-- A text. -/
@[match_pattern] abbrev str (text : String) : Tree := .scalar (.str text)

/-- A day or a point in time. -/
@[match_pattern] abbrev stamp (value : Stamp) : Tree := .scalar (.stamp value)

/-! ### Equality -/

mutual

/-- Equality of trees is decided member by member. -/
def decEq : (first second : Tree) → Decidable (first = second)
  | .scalar s, .scalar t =>
    if equal : s = t then isTrue (by rw [equal]) else isFalse (by intro same; cases same; exact equal rfl)
  | .list xs, .list ys =>
    match decEqItems xs ys with
    | isTrue equal => isTrue (by rw [equal])
    | isFalse differ => isFalse (by intro same; cases same; exact differ rfl)
  | .map xs, .map ys =>
    match decEqEntries xs ys with
    | isTrue equal => isTrue (by rw [equal])
    | isFalse differ => isFalse (by intro same; cases same; exact differ rfl)
  | .pair k x, .pair l y =>
    match decEq k l, decEq x y with
    | isTrue equal, isTrue equals => isTrue (by rw [equal, equals])
    | isFalse differ, _ => isFalse (by intro same; cases same; exact differ rfl)
    | _, isFalse differ => isFalse (by intro same; cases same; exact differ rfl)
  | .set xs, .set ys =>
    if equal : xs = ys then isTrue (by rw [equal]) else isFalse (by intro same; cases same; exact equal rfl)
  | .scalar _, .list _ => isFalse nofun
  | .scalar _, .map _ => isFalse nofun
  | .scalar _, .pair .. => isFalse nofun
  | .scalar _, .set _ => isFalse nofun
  | .list _, .scalar _ => isFalse nofun
  | .list _, .map _ => isFalse nofun
  | .list _, .pair .. => isFalse nofun
  | .list _, .set _ => isFalse nofun
  | .map _, .scalar _ => isFalse nofun
  | .map _, .list _ => isFalse nofun
  | .map _, .pair .. => isFalse nofun
  | .map _, .set _ => isFalse nofun
  | .pair .., .scalar _ => isFalse nofun
  | .pair .., .list _ => isFalse nofun
  | .pair .., .map _ => isFalse nofun
  | .pair .., .set _ => isFalse nofun
  | .set _, .scalar _ => isFalse nofun
  | .set _, .list _ => isFalse nofun
  | .set _, .map _ => isFalse nofun
  | .set _, .pair .. => isFalse nofun

/-- Equality of lists of trees. -/
def decEqItems : (first second : List Tree) → Decidable (first = second)
  | [], [] => isTrue rfl
  | [], _ :: _ => isFalse nofun
  | _ :: _, [] => isFalse nofun
  | x :: xs, y :: ys =>
    match decEq x y, decEqItems xs ys with
    | isTrue equal, isTrue equals => isTrue (by rw [equal, equals])
    | isFalse differ, _ => isFalse (by intro same; cases same; exact differ rfl)
    | _, isFalse differ => isFalse (by intro same; cases same; exact differ rfl)

/-- Equality of lists of entries. -/
def decEqEntries : (first second : List (Scalar × Tree)) → Decidable (first = second)
  | [], [] => isTrue rfl
  | [], _ :: _ => isFalse nofun
  | _ :: _, [] => isFalse nofun
  | (k, x) :: xs, (l, y) :: ys =>
    if sameKey : k = l then
      match decEq x y, decEqEntries xs ys with
      | isTrue equal, isTrue equals => isTrue (by rw [sameKey, equal, equals])
      | isFalse differ, _ => isFalse (by intro same; cases same; exact differ rfl)
      | _, isFalse differ => isFalse (by intro same; cases same; exact differ rfl)
    else isFalse (by intro same; cases same; exact sameKey rfl)

end

instance : DecidableEq Tree :=
  decEq

end Tree

/-! ### Kinds -/

/-- The kind of a scalar, as messages name it. -/
def Scalar.kind : Scalar → String
  | .null => "NoneType"
  | .bool _ => "bool"
  | .int _ => "int"
  | .float _ => "float"
  | .str _ => "str"
  | .stamp (.date _) => "date"
  | .stamp (.dateTime ..) => "datetime"
  | .bytes _ => "bytes"

/-- Whether a scalar counts as given: not absent, not false, not zero, not empty. -/
def Scalar.isTruthy : Scalar → Bool
  | .null => false
  | .bool value => value
  | .int value => value != 0
  | .float value => !value.isZero
  | .str text => !text.isEmpty
  | .stamp _ => true
  | .bytes content => !content.isEmpty

namespace Tree

/-- The kind of a tree, as messages name it. -/
def kind : Tree → String
  | .scalar value => value.kind
  | .list _ => "list"
  | .map _ => "dict"
  | .pair .. => "tuple"
  | .set _ => "set"

/-- Whether a tree counts as given: a truthy scalar or a container that is not empty. -/
def isTruthy : Tree → Bool
  | .scalar value => value.isTruthy
  | .list items => !items.isEmpty
  | .map entries => !entries.isEmpty
  | .pair .. => true
  | .set members => !members.isEmpty

/-- A tree if it counts as given. -/
def orElse (tree fallback : Tree) : Tree :=
  if tree.isTruthy then tree else fallback

/-- The entries of a map. -/
def entries? : Tree → Option (List (Scalar × Tree))
  | .map entries => some entries
  | _ => none

/-! ### Height and induction -/

mutual

/-- How deep lists and maps are nested: every other value has height zero. -/
def height : Tree → Nat
  | .scalar _ => 0
  | .list items => heightItems items + 1
  | .map entries => heightEntries entries + 1
  | .pair .. => 0
  | .set _ => 0

/-- The greatest height of a list of trees. -/
def heightItems : List Tree → Nat
  | [] => 0
  | item :: rest => max item.height (heightItems rest)

/-- The greatest height of the values of a list of entries. -/
def heightEntries : List (Scalar × Tree) → Nat
  | [] => 0
  | (_, value) :: rest => max value.height (heightEntries rest)

end

theorem height_le_heightItems {item : Tree} {items : List Tree} (member : item ∈ items) :
    item.height ≤ heightItems items := by
  induction items with
  | nil => cases member
  | cons first rest ih =>
    rcases List.mem_cons.mp member with rfl | later
    · exact Nat.le_max_left _ _
    · exact Nat.le_trans (ih later) (Nat.le_max_right _ _)

theorem height_le_heightEntries {key : Scalar} {value : Tree} {entries : List (Scalar × Tree)}
    (member : (key, value) ∈ entries) : value.height ≤ heightEntries entries := by
  induction entries with
  | nil => cases member
  | cons first rest ih =>
    rcases List.mem_cons.mp member with rfl | later
    · exact Nat.le_max_left _ _
    · exact Nat.le_trans (ih later) (Nat.le_max_right _ _)

/-- Induction over a tree: a property of all scalars, entries and sets, of every list whose items have it
and of every map whose values have it, is a property of all trees. -/
@[elab_as_elim]
theorem induct {motive : Tree → Prop} (scalar : ∀ value, motive (.scalar value))
    (list : ∀ items, (∀ item ∈ items, motive item) → motive (.list items))
    (map : ∀ entries, (∀ entry ∈ entries, motive entry.2) → motive (.map entries))
    (pair : ∀ key value, motive (.pair key value)) (set : ∀ members, motive (.set members)) (tree : Tree) :
    motive tree := by
  refine Tree.rec (motive_1 := motive) (motive_2 := fun items => ∀ item ∈ items, motive item)
    (motive_3 := fun entries => ∀ entry ∈ entries, motive entry.2) (motive_4 := fun entry => motive entry.2)
    scalar list map (fun key value _ _ => pair key value) set ?_ ?_ ?_ ?_ ?_ tree
  · simp
  · intro first rest atFirst atRest item member
    rcases List.mem_cons.mp member with rfl | later
    · exact atFirst
    · exact atRest item later
  · simp
  · intro first rest atFirst atRest entry member
    rcases List.mem_cons.mp member with rfl | later
    · exact atFirst
    · exact atRest entry later
  · intro key value atValue
    exact atValue

end Tree

end RouteCompiler
