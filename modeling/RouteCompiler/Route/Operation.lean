/-
**Routes of a path.**

The operations of a path are its entries under the verbs of HTTP. Each becomes a route if a handler is
found for it. Operations without a handler are collected while the others are compiled, so a fault in
any operation that has a handler comes first; no route is made if a handler is missing.

* `Verb`: the verbs;
* `Route`: a compiled operation;
* `compileOperation`: the route of one operation, or that its handler is missing;
* `compileOperations`: the routes of a path and its missing handlers;
* `compileMethods`: the routes of a path that lacks no handler.
-/

import RouteCompiler.Route.Body
import RouteCompiler.Route.Handler
import RouteCompiler.Route.Parameter

namespace RouteCompiler

/-! ### Verbs and routes -/

/-- The verbs of HTTP that a path may answer. -/
inductive Verb where
  | get
  | put
  | post
  | delete
  | options
  | head
  | patch
  | trace
  deriving DecidableEq, Repr

namespace Verb

/-- The verbs. -/
def all : List Verb :=
  [.get, .put, .post, .delete, .options, .head, .patch, .trace]

/-- The key of a verb in a document. -/
def key : Verb → String
  | .get => "get"
  | .put => "put"
  | .post => "post"
  | .delete => "delete"
  | .options => "options"
  | .head => "head"
  | .patch => "patch"
  | .trace => "trace"

/-- The name of a verb in a route. -/
def method : Verb → String
  | .get => "GET"
  | .put => "PUT"
  | .post => "POST"
  | .delete => "DELETE"
  | .options => "OPTIONS"
  | .head => "HEAD"
  | .patch => "PATCH"
  | .trace => "TRACE"

/-- The verb that a key of a document is. -/
def ofKey? (key : Scalar) : Option Verb :=
  all.find? fun verb => decide (key = .str verb.key)

/-- The place of an operation. -/
def place (verb : Verb) (path : String) : String :=
  verb.method ++ " " ++ path

end Verb

/-- A compiled operation. -/
structure Route where
  method : String
  /-- The routing pattern. -/
  url : String
  /-- The template that the pattern was made from. -/
  path : String
  operationId : String
  /-- The name that the handler was found under. -/
  handlerName : String
  /-- The text that stands for the handler. -/
  handler : String
  /-- The schemas by part of the request, and those of the answers. -/
  schema : Entries
  deriving Repr

/-- What becomes of an operation. -/
inductive Compiled where
  /-- A route. -/
  | route (route : Route)
  /-- No handler is found. -/
  | missing (missing : MissingHandler)
  deriving Repr

/-! ### One operation -/

/-- The parameters of an operation: its own, then those of its path. -/
def operationParameters (own shared : Tree) : Except Failure (List Tree) := do
  let own ← declarations own
  let shared ← declarations shared
  return own ++ shared

/-- A failure in a parameter, with the operation as its place. -/
def atOperation (place : String) : Failure → Failure
  | .malformed problem location => .malformed problem
    (if location.isTruthy then .str (place ++ " " ++ location.display) else .str place)
  | failure => failure

/-- The schemas of the parameters of an operation. -/
def operationParameterSchemas (settings : Settings) (place : String) (own shared : Tree) :
    Except Failure Entries := do
  let declared ← operationParameters own shared
  (parameterSchemas settings.deriveRequired declared).mapError (atOperation place)

/-- The schemas of an operation. -/
def operationSchema (settings : Settings) (place : String) (shared operation : Tree) : Run Entries := do
  let parameters ← Run.ofExcept
    (operationParameterSchemas settings place (operation.field "parameters") shared)
  let body ← requestBody settings (.str place) (operation.field "requestBody")
  let answers ← responses settings (.str place) (operation.field "responses")
  return OrderedMap.merge (OrderedMap.merge parameters body) answers

/-- The route of an operation, or that its handler is missing. -/
def compileOperation (settings : Settings) (handlers : Handlers) (path url : String) (shared : Tree)
    (verb : Verb) (operation : Tree) : Run Compiled := do
  Run.report (.compilingOperation (verb.place path))
  match operation with
  | .map _ =>
    let identifier := operation.field "operationId"
    if identifier.isTruthy then
      let operationId ← Run.ofExcept identifier.spelled
      let name := handlerName operationId
      match handlers.find? name with
      | none => return .missing ⟨path, verb.key, some operationId, some name⟩
      | some handler =>
        let schema ← operationSchema settings (verb.place path) shared operation
        return .route {
          method := verb.method
          url
          path
          operationId
          handlerName := name
          handler
          schema }
    else return .missing ⟨path, verb.key, none, none⟩
  | _ => throw (.malformed .operationNotObject (.str (verb.place path)))

/-! ### All operations of a path -/

/-- What becomes of the operations among the entries of a path, in order. -/
def compileEntries (settings : Settings) (handlers : Handlers) (path url : String) (shared : Tree) :
    Entries → Run (List Compiled)
  | [] => return []
  | (key, value) :: rest =>
    match Verb.ofKey? key with
    | none => compileEntries settings handlers path url shared rest
    | some verb => do
      let compiled ← compileOperation settings handlers path url shared verb value
      let others ← compileEntries settings handlers path url shared rest
      return compiled :: others

/-- The route of a compiled operation. -/
def Compiled.route? : Compiled → Option Route
  | .route made => some made
  | .missing _ => none

/-- The handler that a compiled operation lacks. -/
def Compiled.missing? : Compiled → Option MissingHandler
  | .route _ => none
  | .missing lacking => some lacking

/-- What becomes of the operations of a path, in order. -/
def compileOperations (settings : Settings) (handlers : Handlers) (path url : String) (item : Entries) :
    Run (List Compiled) :=
  compileEntries settings handlers path url ((Tree.map item).field "parameters") item

/-- The routes of operations that lack no handler. -/
def allRoutes (compiled : List Compiled) : Run (List Route) :=
  let missing := compiled.filterMap Compiled.missing?
  if missing.isEmpty then return compiled.filterMap Compiled.route? else throw (.missing missing)

/-- The routes of a path that lacks no handler. -/
def compileMethods (settings : Settings) (handlers : Handlers) (path url : String) (item : Tree) :
    Run (List Route) :=
  match item with
  | .map entries => do
    let compiled ← compileOperations settings handlers path url entries
    allRoutes compiled
  | other => throw (.unexpected (.notAnObject other.kind))

end RouteCompiler
