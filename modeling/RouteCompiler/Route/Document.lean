/-
**Routes of a document.**

The references of a document are resolved first. Then its paths are compiled in order, each under the
routing pattern of its template. Missing handlers are collected over all paths, so one failure names
all of them.

* `compilePath`: what becomes of the operations of one path;
* `compilePaths`: the same for all paths in order;
* `compiling`: the routes of a document, however its references are resolved;
* `compileDocument`: the routes of a document;
* `compileParsed`: the same for whatever is read.
-/

import RouteCompiler.Reference.Endless
import RouteCompiler.Route.Operation
import RouteCompiler.Route.Template

namespace RouteCompiler

/-- What becomes of the operations of a path. The template must be a text, and the path an object. -/
def compilePath (settings : Settings) (handlers : Handlers) (template : Scalar) (item : Tree) :
    Run (List Compiled) :=
  match item, template with
  | .map entries, .str path => do
    let url := (Template.ofText path).url
    Run.report (.creatingPath url)
    compileOperations settings handlers path url entries
  | .map _, other => throw (.unexpected (.templateNotText other.kind))
  | _, _ => throw (.ofProblem .pathItemNotObject template)

/-- What becomes of the operations of all paths, in order. -/
def compilePaths (settings : Settings) (handlers : Handlers) : Entries → Run (List Compiled)
  | [] => return []
  | (template, item) :: rest => do
    let compiled ← compilePath settings handlers template item
    let others ← compilePaths settings handlers rest
    return compiled ++ others

/-- The paths of a document. None are needed. -/
def pathsOf (document : Tree) : Run Entries :=
  match document with
  | .map _ =>
    let paths := document.field "paths"
    if paths.isTruthy then
      match paths with
      | .map entries => return entries
      | _ => throw (.malformed .pathsNotObject "#/paths")
    else return []
  | other => throw (.unexpected (.notAnObject other.kind))

/-- The routes of a document whose references are resolved. -/
def compileResolved (settings : Settings) (handlers : Handlers) (document : Tree) : Run (List Route) := do
  let paths ← pathsOf document
  let compiled ← compilePaths settings handlers paths
  allRoutes compiled

/-- The routes of a document whose references are still to be resolved. -/
def compiling (settings : Settings) (handlers : Handlers) (resolving : Run Tree) : Run (List Route) := do
  Run.report .resolvingReferences
  let resolved ← resolving
  Run.report .compilingDocument
  let routes ← compileResolved settings handlers resolved
  Run.report (.compiled routes.length)
  return routes

/-- The routes of a document. -/
def compileDocument (settings : Settings) (handlers : Handlers) (document : Tree) : Run (List Route) :=
  compiling settings handlers (resolveDocument document)

/-- The routes of what is read. -/
def compileParsed (settings : Settings) (handlers : Handlers) (document : Yaml.Parsed) : Run (List Route) :=
  compiling settings handlers (resolveParsed document)

end RouteCompiler
