/-
**Handler modules.**

The handlers of a program come from a module that is linked into it, or from a member of a module that
is reached through other members. A target names both, `module` or `module:member.member`. A class
stands for an instance of it that is made without arguments.

* `Target`: a module and the members that lead to the handlers;
* `findModule`: the members of a module;
* `findMember?`: the member that a way leads to;
* `importHandlers`: the handlers of a target.
-/

import RouteCompiler.Failure
import RouteCompiler.Route.Handler
import RouteCompiler.Text.Quoted

namespace RouteCompiler

/-- A module and the members that lead to the handlers, if there are any. -/
structure Target where
  module : String
  member : String
  deriving DecidableEq, Repr

/-- The target that a text names: what follows the first colon is a member. -/
def Target.ofText (text : String) : Target where
  module := String.ofList (text.toList.takeWhile (· != ':'))
  member := String.ofList ((text.toList.dropWhile (· != ':')).drop 1)

/-! ### Modules -/

/-- What is said of a module that does not exist. -/
def noModuleText (name : String) : String :=
  "No module named " ++ Text.quoted name

/-- The members of a module. No module has modules inside it. -/
def findModule (modules : List (String × Members)) (name : String) : Except Failure Members :=
  match name.splitOn "." with
  | [] | [""] => .error (.unexpected .emptyModuleName)
  | "" :: _ => .error (.unexpected (.relativeModuleName name))
  | first :: rest =>
    match OrderedMap.get? modules first, rest with
    | none, _ => .error (.usage (.moduleNotFound name (noModuleText first)))
    | some members, [] => .ok members
    | some _, second :: _ =>
      .error (.usage (.moduleNotFound name
        (noModuleText (first ++ "." ++ second) ++ "; " ++ Text.quoted first ++ " is not a package")))

/-! ### Members -/

/-- The members of a member. -/
def Member.members : Member → Members
  | .object members => members
  | .type _ _ members => members
  | .callable _ members => members
  | .mapping _ members => members

/-- The member that a way leads to. -/
def findMember? : Member → (way : List String) → Option Member
  | member, [] => some member
  | member, name :: rest =>
    match OrderedMap.get? member.members name with
    | some next => findMember? next rest
    | none => none

/-- The handlers that a member holds. -/
def Member.handlers : Member → Except Failure Handlers
  | .mapping entries _ => .ok entries
  | .type name isDefault members =>
    if isDefault then .ok (Handlers.ofMembers members)
    else .error (.unexpected (.cannotInstantiate name))
  | member => .ok (Handlers.ofMembers member.members)

/-- The handlers of a target. -/
def importHandlers (modules : List (String × Members)) (text : String) : Except Failure Handlers := do
  let target := Target.ofText text
  let members ← findModule modules target.module
  let way := if target.member.isEmpty then [] else target.member.splitOn "."
  match findMember? (.object members) way with
  | some member => member.handlers
  | none => throw (.usage (.memberNotFound target.module target.member))

end RouteCompiler
