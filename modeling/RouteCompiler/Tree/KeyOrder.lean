/-
**The order of keys.**

Keys of one kind have an order: texts by code point, truth values and numbers by value, days by the
calendar, points in time by the clock. Keys of different kinds have none, and neither has the absent
key beside another one.

* `Scalar.keyKind`: the kind that decides which keys can be sorted together;
* `Scalar.isBefore`: the order inside a kind;
* `sortBy`: sorting by insertion;
* `sortKeys?`: the keys in order, if they have one.
-/

import RouteCompiler.Tree.Basic

namespace RouteCompiler

/-- The kinds of keys that have an order of their own. -/
inductive KeyKind where
  /-- The absent key, which is ordered with no other. -/
  | absent
  /-- Truth values and numbers. -/
  | number
  /-- Texts. -/
  | text
  /-- Calendar days. -/
  | day
  /-- Points in time, with or without an offset from universal time. -/
  | time (offset : Bool)
  /-- Bytes. -/
  | bytes
  deriving DecidableEq, Repr

/-- The kind of a key. -/
def Scalar.keyKind : Scalar → KeyKind
  | .null => .absent
  | .bool _ => .number
  | .int _ => .number
  | .float _ => .number
  | .str _ => .text
  | .stamp (.date _) => .day
  | .stamp (.dateTime _ clock) => .time clock.offset.isSome
  | .bytes _ => .bytes

/-- A number on the scale of fractional numbers, without rounding. -/
def Scalar.number : Scalar → Binary64
  | .bool value => .finite false (if value then 1 else 0) 0
  | .int value => .finite (decide (value < 0)) value.natAbs 0
  | .float value => value
  | _ => .nan

/-- The days from the first of March of year zero to a day. -/
def Date.daysSinceEpoch (day : Date) : Int :=
  let shifted : Int := if day.month ≤ 2 then (day.year : Int) - 1 else day.year
  let month : Int := if day.month ≤ 2 then (day.month : Int) + 9 else (day.month : Int) - 3
  365 * shifted + shifted / 4 - shifted / 100 + shifted / 400 + (153 * month + 2) / 5 + day.day

/-- A stamp as a count of microseconds of universal time. -/
def Stamp.instant : Stamp → Int
  | .date day => day.daysSinceEpoch * 86400000000
  | .dateTime day clock =>
    let minutes := day.daysSinceEpoch * 1440 + clock.hour * 60 + clock.minute - clock.offset.getD 0
    (minutes * 60 + clock.second) * 1000000 + clock.microsecond

/-- Whether a key comes before another one of its kind. -/
def Scalar.isBefore : Scalar → Scalar → Bool
  | .str first, .str second => decide (first < second)
  | .stamp first, .stamp second => decide (first.instant < second.instant)
  | .bytes first, .bytes second => decide (first < second)
  | first, second => first.number.isLess second.number

/-! ### Sorting -/

/-- The longest start of a list in which no item comes before the one in front of it, after the items
`done` that are known to be part of it, the last first. -/
def nonDescendingRun {α : Type} (before : α → α → Bool) (last : α) (done : List α) :
    List α → List α × List α
  | [] => ((last :: done).reverse, [])
  | item :: rest =>
    if before item last then ((last :: done).reverse, item :: rest)
    else nonDescendingRun before item (last :: done) rest

/-- The longest start of a list in which every item comes before the one in front of it, turned round. -/
def descendingRun {α : Type} (before : α → α → Bool) (last : α) (done : List α) :
    List α → List α × List α
  | [] => (last :: done, [])
  | item :: rest =>
    if before item last then descendingRun before item (last :: done) rest else (last :: done, item :: rest)

/-- The start of a list that is in order already or in reverse, put in order, and the rest. -/
def firstRun {α : Type} (before : α → α → Bool) : List α → List α × List α
  | [] => ([], [])
  | [item] => ([item], [])
  | first :: second :: rest =>
    if before second first then descendingRun before second [first] rest
    else nonDescendingRun before second [first] rest

/-- The place of an item in a sorted list, found by halving the places from `low` to `high`. -/
def placeOf {α : Type} (before : α → α → Bool) (item : α) (sorted : List α) (low high : Nat) : Nat :=
  if _ : low < high then
    let middle := (low + high) / 2
    match sorted[middle]? with
    | some other =>
      if before item other then placeOf before item sorted low middle
      else placeOf before item sorted (middle + 1) high
    | none => low
  else low
termination_by high - low

/-- A sorted list with one more item. -/
def insertSorted {α : Type} (before : α → α → Bool) (sorted : List α) (item : α) : List α :=
  sorted.insertIdx (placeOf before item sorted 0 sorted.length) item

/-- The items of a list in order. Where not all of them can be compared, as a number and what is not one,
the result depends on the comparisons made: those of a first run and of insertion by halving. -/
def sortBy {α : Type} (before : α → α → Bool) (items : List α) : List α :=
  let (run, rest) := firstRun before items
  rest.foldl (insertSorted before) run

/-! ### Keys -/

/-- Whether keys have an order: there is at most one, or all are of one kind that has one. -/
def areSortable : List Scalar → Bool
  | [] => true
  | [_] => true
  | first :: rest => first.keyKind != .absent && rest.all fun key => key.keyKind == first.keyKind

/-- The keys in order, if they have one. -/
def sortKeys? (keys : List Scalar) : Option (List Scalar) :=
  if areSortable keys then some (sortBy Scalar.isBefore keys) else none

theorem sortKeys?_str (texts : List String) :
    (sortKeys? (texts.map .str)).isSome = true := by
  have sortable : areSortable (texts.map .str) = true := by
    match texts with
    | [] => rfl
    | [_] => rfl
    | _ :: _ :: _ => simp [areSortable, Scalar.keyKind]
  simp [sortKeys?, sortable]

end RouteCompiler
