/-
**Every operation is served or reported.**

A document is compiled to routes when each of its operations is served, and to a report of missing handlers
when those that have a handler are served and some have none. Since no key stands twice in a document that is
resolved, no two routes have the same path and method.

* `pairwise_operations`: operations differ in their path or their verb;
* `routes_of_operations`: the routes of a document are those of its operations;
* `missing_of_operations`: what is reported are the operations that have no handler;
* `served_handlers_not_enough`: a name that cannot be spelled comes before any report.
-/

import RouteCompiler.Proofs.Reference.Cycles
import RouteCompiler.Proofs.Reference.Orphans
import RouteCompiler.Proofs.Route.Enumeration

namespace RouteCompiler

variable {settings : Settings} {handlers : Handlers} {document : Tree}

/-! ### Places -/

theorem Operation.verb_of_ofEntry? {path : String} {item : Entries} {entry : Scalar × Tree}
    {operation : Operation} (met : Operation.ofEntry? path item entry = some operation) :
    entry.1 = .str operation.verb.key := by
  obtain ⟨verb, isVerb, rfl⟩ := Option.map_eq_some_iff.mp met
  exact Verb.ofKey?_eq_some_iff.mp isVerb

theorem path_of_mem_operationsAt {entry : Scalar × Tree} {operation : Operation}
    (member : operation ∈ operationsAt entry) : entry.1 = .str operation.path := by
  unfold operationsAt at member
  split at member
  · obtain ⟨inner, _, met⟩ := List.mem_filterMap.mp member
    obtain ⟨verb, _, rfl⟩ := Option.map_eq_some_iff.mp met
    rfl
  · cases member

theorem Tree.keysApart_paths (apart : document.KeysApart) : (Tree.map document.paths).KeysApart := by
  have none : (Tree.map []).KeysApart := by decide
  unfold Tree.paths Tree.field
  cases document with
  | map entries =>
    rw [Tree.get?_map]
    cases given : OrderedMap.get? entries (.str "paths") with
    | none => exact none
    | some paths =>
      cases paths with
      | map inner => exact apart.subset (Tree.maps_subset_of_mem (OrderedMap.mem_of_get?_eq_some given))
      | _ => exact none
  | _ => exact none

/-- **Operations differ in their path or their verb.** -/
theorem pairwise_operations (apart : document.KeysApart) :
    document.operations.Pairwise fun first second =>
      (first.path, Text.upper first.verb.key) ≠ (second.path, Text.upper second.verb.key) := by
  obtain ⟨apartPaths, apartItems⟩ := Tree.keysApart_map_iff.mp (Tree.keysApart_paths apart)
  refine List.pairwise_flatMap.mpr ⟨fun entry member => ?_, ?_⟩
  · unfold operationsAt
    split
    · rename_i path item
      have distinct := (Tree.keysApart_map_iff.mp (apartItems _ member)).1.distinct
      refine List.pairwise_filterMap.mpr ((List.pairwise_map.mp distinct).imp ?_)
      intro first second differ operation met other metOther same
      have sameVerb : operation.verb = other.verb := by
        rw [Prod.mk.injEq, ← Verb.method_eq_upper, ← Verb.method_eq_upper] at same
        exact Verb.method_injective same.2
      rw [Operation.verb_of_ofEntry? met, Operation.verb_of_ofEntry? metOther, sameVerb] at differ
      exact differ rfl
    · exact .nil
  · refine (List.pairwise_map.mp apartPaths.distinct).imp ?_
    intro first second differ operation inFirst other inSecond same
    rw [path_of_mem_operationsAt inFirst, path_of_mem_operationsAt inSecond, (Prod.mk.inj same).1] at differ
    exact differ rfl

/-! ### Routes -/

/-- Routes have the paths and methods of the operations that they serve. -/
theorem places_of_serves {operations : List Operation} {routes : List Route}
    (serve : List.Forall₂ (Serves settings handlers) operations routes) :
    (routes.map fun route => (route.path, route.method)) =
      (operations.map fun operation => (operation.path, Text.upper operation.verb.key)) := by
  induction serve with
  | nil => rfl
  | cons serves _ ih => rw [List.map_cons, List.map_cons, serves.path, serves.method, ih]

/-- **Every operation becomes one route**, in the order in which the operations stand in the document after its
references are resolved, and nothing else becomes one. The route is bound to the handler of the operation. A
document is compiled whenever all its operations can be served so. -/
theorem routes_of_operations {routes : List Route} (apart : document.KeysApart) :
    (compileDocument settings handlers document).outcome.1 = .ok routes ↔
      ∃ resolved, (resolveDocument document).outcome.1 = .ok resolved ∧ resolved.Orderly ∧
        (routes.map fun route => (route.path, route.method)) =
          (resolved.operations.map fun operation => (operation.path, Text.upper operation.verb.key)) ∧
        (routes.map fun route => (route.path, route.method)).Nodup ∧
        List.Forall₂ (Serves settings handlers) resolved.operations routes := by
  rw [compileDocument_outcome, bind_ok_iff]
  refine exists_congr fun resolved => and_congr_right fun resolves => ?_
  rw [compileResolved_ok_iff]
  refine and_congr_right fun _ => ⟨fun serve => ?_, fun served => served.2.2⟩
  have places := places_of_serves serve
  have apartResolved := keysApart_substituted apart (resolveDocument_ok_iff.mp resolves).1
  refine ⟨places, ?_, serve⟩
  rw [places]
  exact List.pairwise_map.mpr (pairwise_operations apartResolved)

/-- A document with two paths. The operations of the first one share a parameter, and one of them stands before,
one after a key that is no verb. Schemas are given by references. -/
def usersDocument : Tree :=
  .map [
    ("components", .map [("schemas", .map [("User", .map [
      ("properties", .map [("id", .map [("readOnly", .scalar (.bool true))]), ("name", .map [])])])])]),
    ("paths", .map [
      ("/users/\x7bid\x7d", .map [
        ("parameters", .list [.map [("name", .str "id"), ("in", .str "path")]]),
        ("put", .map [
          ("operationId", .str "PutUser"), ("requestBody", json), ("responses", .map [("200", json)])]),
        ("summary", .str "users"),
        ("get", .map [("operationId", .str "GetUser"), ("responses", .map [("200", json)])])]),
      ("/health", .map [("get", .map [("operationId", .str "Health")])])])]
where
  json : Tree := .map [("content", .map [("application/json", .map [("schema",
    .map [(refKey, .str "#/components/schemas/User")])])])]

/-- Handlers for the operations of the document. -/
def usersHandlers : Handlers :=
  [("getUser", .callable "read"), ("putUser", .callable "write"), ("health", .callable "ping")]

theorem routes_of_usersDocument :
    usersDocument.KeysApart ∧ ∃ routes,
      (compileDocument .default usersHandlers usersDocument).outcome.1 = .ok routes ∧
      (routes.map fun route => (route.path, route.method)) =
        [("/users/\x7bid\x7d", "PUT"), ("/users/\x7bid\x7d", "GET"), ("/health", "GET")] ∧
      ∃ resolved, (resolveDocument usersDocument).outcome.1 = .ok resolved ∧ resolved.Orderly ∧
        (routes.map fun route => (route.path, route.method)) =
          (resolved.operations.map fun operation => (operation.path, Text.upper operation.verb.key)) ∧
        (routes.map fun route => (route.path, route.method)).Nodup ∧
        List.Forall₂ (Serves .default usersHandlers) resolved.operations routes := by
  have apart : usersDocument.KeysApart := by decide +kernel
  have served : ((compileDocument .default usersHandlers usersDocument).outcome.1.map fun routes =>
      routes.map fun route => (route.path, route.method)) =
      .ok [("/users/\x7bid\x7d", "PUT"), ("/users/\x7bid\x7d", "GET"), ("/health", "GET")] := by
    decide +kernel
  cases compiles : (compileDocument .default usersHandlers usersDocument).outcome.1 with
  | error failure =>
    rw [compiles] at served
    cases served
  | ok routes =>
    rw [compiles] at served
    exact ⟨apart, routes, rfl, Except.ok.inj served, (routes_of_operations apart).mp compiles⟩

/-! ### Reports -/

/-- Resolving a document does not look for handlers. -/
theorem resolveDocument_ne_missing (missing : List MissingHandler) :
    (resolveDocument document).outcome.1 ≠ .error (.missing missing) := by
  intro failed
  rw [resolveDocument_outcome] at failed
  rcases bind_error_iff.mp failed with inside | ⟨resolved, _, refused⟩
  · rcases substituted_error_cases inside with ⟨_, same, _⟩ | ⟨_, _, same⟩ | ⟨_, same⟩ <;> cases same
  · unfold withoutOrphans at refused
    split at refused <;> cases refused

/-- **Missing handlers are reported when nothing else is wrong.** The references can be resolved, everything
that is walked through has its shape, the names of all operations can be spelled, those that have a handler are
served, and some have none. The report names exactly those, in the order in which they stand in the document after
its references are resolved. -/
theorem missing_of_operations {missing : List MissingHandler} :
    (compileDocument settings handlers document).outcome.1 = .error (.missing missing) ↔
      ∃ resolved, (resolveDocument document).outcome.1 = .ok resolved ∧ resolved.Orderly ∧
        (∀ operation ∈ resolved.operations, operation.IsNameable ∧
          (operation.HasHandler handlers → ∃ route, Serves settings handlers operation route)) ∧
        (∃ operation ∈ resolved.operations, ¬ operation.HasHandler handlers) ∧
        missing = resolved.operations.filterMap (Operation.lack? handlers) := by
  rw [compileDocument_outcome]
  constructor
  · intro failed
    rcases bind_error_iff.mp failed with atReferences | ⟨resolved, resolves, later⟩
    · exact absurd atReferences (resolveDocument_ne_missing missing)
    · exact ⟨resolved, resolves, compileResolved_missing_iff.mp later⟩
  · rintro ⟨resolved, resolves, reported⟩
    exact bind_error_iff.mpr (Or.inr ⟨resolved, resolves, compileResolved_missing_iff.mpr reported⟩)

/-- What is registered but cannot be called is no handler. -/
example :
    (compileDocument .default [("health", .callable "ping"), ("getUser", .inert)] usersDocument).outcome.1.map
        List.length =
      .error (.missing [
        ⟨"/users/\x7bid\x7d", "put", some "PutUser", some "putUser"⟩,
        ⟨"/users/\x7bid\x7d", "get", some "GetUser", some "getUser"⟩]) := by
  decide +kernel

/-- A document with an operation that is not named, and one whose name is a number that cannot be spelled. -/
def unspelledDocument : Tree :=
  .map [("paths", .map [("/a", .map unspelledItem)])]
where
  unspelledItem : Entries :=
    [("get", .map []), ("put", .map [("operationId", .int Text.leastTooLong)])]

/-- The document after its references are resolved. -/
def unspelledResolved : Tree :=
  .map [("paths", .map [("/a", .map unspelledDocument.unspelledItem)]), ("components", .map [])]

/-- It is not enough that the operations with a handler are served: the name of another one may be beyond
spelling, and then nothing is reported as missing. -/
theorem served_handlers_not_enough :
    ¬ ∀ (settings : Settings) (handlers : Handlers) (document : Tree), document.KeysApart →
      (∀ entry ∈ document.paths, ∃ path, entry.1 = .str path) →
      ((∃ missing, (compileDocument settings handlers document).outcome.1 = .error (.missing missing)) ↔
        ∃ resolved, (resolveDocument document).outcome.1 = .ok resolved ∧ resolved.Orderly ∧
          (∀ operation ∈ resolved.operations,
            operation.HasHandler handlers → ∃ route, Serves settings handlers operation route) ∧
          ∃ operation ∈ resolved.operations, ¬ operation.HasHandler handlers) := by
  intro enough
  have noHandler (operation : Operation) : ¬ operation.HasHandler [] := by
    rintro ⟨_, name, label, _, found⟩
    cases found
  have templates : ∀ entry ∈ unspelledDocument.paths, ∃ path, entry.1 = .str path :=
    List.forall_mem_singleton.mpr ⟨"/a", rfl⟩
  have resolves : (resolveDocument unspelledDocument).outcome.1 = .ok unspelledResolved :=
    resolveDocument_ok_iff.mpr (by decide +kernel)
  have orderly : unspelledResolved.Orderly := by
    refine ⟨⟨_, rfl⟩, fun _ => ⟨_, rfl⟩, List.forall_mem_singleton.mpr ⟨_, _, rfl⟩, ?_⟩
    exact List.forall_mem_cons.mpr ⟨⟨_, rfl⟩, List.forall_mem_singleton.mpr ⟨_, rfl⟩⟩
  obtain ⟨missing, reported⟩ := (enough .default [] unspelledDocument (by decide +kernel) templates).mpr
    ⟨_, resolves, orderly, fun operation _ has => absurd has (noHandler operation),
      _, List.mem_cons_self, noHandler _⟩
  have refused : ((compileDocument .default [] unspelledDocument).outcome.1.map List.length) =
      .error (.unexpected .numberTooLong) := by
    decide +kernel
  rw [reported] at refused
  cases refused

end RouteCompiler
