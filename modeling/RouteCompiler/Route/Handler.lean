/-
**Handlers.**

An operation is served by a handler that is found under a name derived from the name of the operation.
The handlers come from a mapping, which is used as it is, or from the members of a module or an object,
of which the public ones that can be called are taken in the order of their names.

* `handlerName`: the name of the handler of an operation;
* `Binding`, `Handlers`: what names are bound to;
* `Handlers.find?`: the handler of a name;
* `Member`, `Handlers.ofMembers`: the handlers among the members of a module or an object.
-/

import RouteCompiler.OrderedMap
import RouteCompiler.Text.Case

namespace RouteCompiler

/-- The name of the handler of an operation: that of the operation, starting in lower case. -/
def handlerName (operation : String) : String :=
  match operation.toList with
  | [] => ""
  | first :: rest => String.ofList (Text.lowerChar first ++ rest)

/-- What a name is bound to. -/
inductive Binding where
  /-- Something that can be called, with the text that stands for it in a list of routes. -/
  | callable (label : String)
  /-- Anything else. -/
  | inert
  deriving DecidableEq, Repr

/-- What names are bound to. -/
abbrev Handlers := List (String × Binding)

namespace Handlers

/-- The label of the handler that is found under a name. What cannot be called is no handler. -/
def find? (handlers : Handlers) (name : String) : Option String :=
  match OrderedMap.get? handlers name with
  | some (.callable label) => some label
  | _ => none

theorem find?_eq_some_iff (handlers : Handlers) (name label : String) :
    handlers.find? name = some label ↔ OrderedMap.get? handlers name = some (.callable label) := by
  unfold find?
  split <;> simp_all

end Handlers

/-! ### Members -/

/-- A member of a module or an object. -/
inductive Member where
  /-- A function, or an object that can be called, with its own members. -/
  | callable (label : String) (members : List (String × Member))
  /-- A class with the members of its instances. An instance is made without arguments if `isDefault`
  says so. -/
  | type (name : String) (isDefault : Bool) (members : List (String × Member))
  /-- An object that cannot be called. -/
  | object (members : List (String × Member))
  /-- A mapping from names, with the members that it has besides its entries. -/
  | mapping (entries : Handlers) (members : List (String × Member))
  deriving Repr

/-- Members by name. -/
abbrev Members := List (String × Member)

/-- The handlers among the members of a module or an object: those whose name does not start with an
underscore and that can be called but are no classes, in the order of their names. -/
def Handlers.ofMembers (members : Members) : Handlers :=
  let sorted := members.mergeSort fun first second => decide (first.1 ≤ second.1)
  sorted.filterMap fun member =>
    match member with
    | (name, .callable label _) => if name.startsWith "_" then none else some (name, .callable label)
    | _ => none

end RouteCompiler
