/-
**The first fault is the one that is reported.**

A malformed document is reported at the first of its stops that is faulty: a path item that is no object, or an
operation that is no object, or that has a handler and cannot be compiled even alone, beside the parameters that it
shares. What is reported names this stop, the path item by its template and the operation by verb and template.
Operations before it that lack a handler do not matter, and neither does anything after it.

* `Operation.alone`, `compileMethods_alone`: an operation without the others of its path;
* `Stop.Faulty`, `Stop.result_malformed_iff`: the faults of a stop;
* `Stop.Names`, `Stop.Faulty.names`: the places of a stop;
* `malformed_of_first_fault`: the fault that is reported of a document.
-/

import RouteCompiler.Proofs.Route.Stops

namespace RouteCompiler

variable {settings : Settings} {handlers : Handlers}

/-! ### Operations alone -/

/-- The path item of an operation without the other operations: the parameters that it shares, and itself. -/
def Operation.alone (operation : Operation) : Entries :=
  [("parameters", operation.shared), (.str operation.verb.key, operation.content)]

/-- **An operation is compiled alone as it is among others**, up to the report of a missing handler. -/
theorem compileMethods_alone (operation : Operation) :
    (compileMethods settings handlers operation.path (Template.ofText operation.path).url
        (.map operation.alone)).outcome.1 =
      operation.compiled settings handlers >>= fun compiled => (allRoutes [compiled]).outcome.1 := by
  have met : operation.alone.filterMap (Operation.ofEntry? operation.path operation.alone) =
      [⟨operation.path, operation.alone, operation.verb, operation.content⟩] := by
    have isVerb : Verb.ofKey? (.str operation.verb.key) = some operation.verb := Verb.ofKey?_eq_some_iff.mpr rfl
    have noVerb : Verb.ofKey? "parameters" = none := by decide
    simp [Operation.alone, Operation.ofEntry?, isVerb, noVerb]
  rw [compileMethods, Run.outcome_bind _ steady_allRoutes, compileOperations, compileEntries_outcome, met]
  show (operation.compiled settings handlers >>= fun compiled => _) >>= _ = _
  cases operation.compiled settings handlers with
  | error failure => rfl
  | ok compiled => rfl

theorem malformed_ne_missing (problem : SchemaProblem) (location : Location) :
    ∀ missing, Failure.malformed problem location ≠ .missing missing :=
  nofun

/-- A failure other than that of a missing handler is the same alone. -/
theorem compileMethods_alone_error_iff {operation : Operation} {failure : Failure}
    (notMissing : ∀ missing, failure ≠ .missing missing) :
    (compileMethods settings handlers operation.path (Template.ofText operation.path).url
        (.map operation.alone)).outcome.1 = .error failure ↔
      operation.compiled settings handlers = .error failure := by
  rw [compileMethods_alone, bind_error_iff]
  refine or_iff_left ?_
  rintro ⟨compiled, _, last⟩
  exact notMissing _ (allRoutes_error_iff.mp last).1

/-- An operation that is an object can be malformed only where it has a handler. -/
theorem Operation.hasHandler_of_malformed {operation : Operation} {entries : Entries}
    (content : operation.content = .map entries) {problem : SchemaProblem} {location : Location}
    (failed : operation.compiled settings handlers = .error (.malformed problem location)) :
    operation.HasHandler handlers := by
  by_cases named : operation.identifier.isTruthy = true
  · cases spelled : operation.identifier.spelled with
    | error failure =>
      rw [compiled_eq content, if_pos named, spelled, Tree.spelled_error spelled] at failed
      cases failed
    | ok name =>
      cases found : handlers.find? (handlerName name) with
      | some label => exact ⟨named, name, label, spelled, found⟩
      | none =>
        rw [compiled_of_absent content named spelled found] at failed
        cases failed
  · rw [compiled_eq content, if_neg named] at failed
    cases failed

/-! ### Faults -/

/-- The faults of a stop, each with the problem and the place that are reported of it. -/
inductive Stop.Faulty (settings : Settings) (handlers : Handlers) : Stop → SchemaProblem → Location → Prop
  /-- A path item is no object. Its template must be one that can be spelled, as every text is. -/
  | item {template : Scalar} {content : Tree} (noObject : ∀ entries, content ≠ .map entries)
      (spellable : template.isSpellable = true) :
      Faulty settings handlers (.item template content) .pathItemNotObject template
  /-- An operation is no object. -/
  | noObject {met : Operation} (noObject : ∀ entries, met.content ≠ .map entries) :
      Faulty settings handlers (.operation met) .operationNotObject (.str met.place)
  /-- An operation has a handler and cannot be compiled alone. -/
  | alone {met : Operation} (has : met.HasHandler handlers) {problem : SchemaProblem} {location : Location}
      (fails : (compileMethods settings handlers met.path (Template.ofText met.path).url
        (.map met.alone)).outcome.1 = .error (.malformed problem location)) :
      Faulty settings handlers (.operation met) problem location

theorem Operation.compiled_of_not_object {operation : Operation}
    (noObject : ∀ entries, operation.content ≠ .map entries) :
    operation.compiled settings handlers = .error (.malformed .operationNotObject (.str operation.place)) := by
  obtain ⟨path, item, verb, content⟩ := operation
  cases content with
  | map entries => exact absurd rfl (noObject entries)
  | _ => rfl

/-- A path item is malformed when it is no object. -/
theorem Stop.item_malformed_iff {template : Scalar} {content : Tree} {problem : SchemaProblem} {location : Location} :
    (Stop.item template content).result settings handlers = .error (.malformed problem location) ↔
      (∀ entries, content ≠ .map entries) ∧ template.isSpellable = true ∧ problem = .pathItemNotObject ∧
        location = template := by
  by_cases object : ∃ entries, content = .map entries
  · obtain ⟨entries, rfl⟩ := object
    refine ⟨fun failed => ?_, fun noObject => absurd rfl (noObject.1 entries)⟩
    cases template <;> cases failed
  · have noObject : ∀ entries, content ≠ .map entries := not_exists.mp object
    have spells : SchemaProblem.pathItemNotObject.isSpellable = true := rfl
    rw [result_of_not_object noObject, Failure.ofProblem, spells, Bool.true_and]
    split
    · rename_i spellable
      constructor
      · intro same
        cases same
        exact ⟨noObject, spellable, rfl, rfl⟩
      · rintro ⟨_, _, rfl, rfl⟩
        rfl
    · rename_i unspellable
      exact ⟨nofun, fun faulty => absurd faulty.2.1 unspellable⟩

/-- **What is malformed at a stop are its faults.** -/
theorem Stop.result_malformed_iff {stop : Stop} {problem : SchemaProblem} {location : Location} :
    stop.result settings handlers = .error (.malformed problem location) ↔
      stop.Faulty settings handlers problem location := by
  cases stop with
  | item template content =>
    rw [item_malformed_iff]
    constructor
    · rintro ⟨noObject, spellable, rfl, rfl⟩
      exact .item noObject spellable
    · rintro (⟨noObject, spellable⟩ | _ | _)
      exact ⟨noObject, spellable, rfl, rfl⟩
  | operation met =>
    rw [result, map_error_iff]
    constructor
    · intro failed
      by_cases object : ∃ entries, met.content = .map entries
      · obtain ⟨entries, content⟩ := object
        exact .alone (Operation.hasHandler_of_malformed content failed)
          ((compileMethods_alone_error_iff (malformed_ne_missing _ _)).mpr failed)
      · have noObject : ∀ entries, met.content ≠ .map entries := not_exists.mp object
        rw [Operation.compiled_of_not_object noObject] at failed
        cases failed
        exact .noObject noObject
    · rintro (_ | noObject | ⟨has, fails⟩)
      · exact Operation.compiled_of_not_object noObject
      · exact (compileMethods_alone_error_iff (malformed_ne_missing _ _)).mp fails

theorem Stop.Settles.not_faulty {stop : Stop} (settles : stop.Settles settings handlers) (problem : SchemaProblem)
    (location : Location) : ¬ stop.Faulty settings handlers problem location := by
  intro faulty
  obtain ⟨compiled, succeeds⟩ := Stop.exists_result_iff.mpr settles
  cases succeeds.symm.trans (Stop.result_malformed_iff.mpr faulty)

/-! ### Places -/

/-- A place is one of a stop: the template of a path item, or a place that starts with the verb of an operation in
capitals and its template. -/
def Stop.Names : Stop → Location → Prop
  | .item template _, location => location = template
  | .operation met, location => StartsWith (Text.upper met.verb.key ++ " " ++ met.path) location

/-- **The fault of a stop names the stop.** -/
theorem Stop.Faulty.names {stop : Stop} {problem : SchemaProblem} {location : Location}
    (faulty : stop.Faulty settings handlers problem location) : stop.Names location := by
  have failed := Stop.result_malformed_iff.mpr faulty
  cases stop with
  | item template content => exact (Stop.item_malformed_iff.mp failed).2.2.2
  | operation met =>
    have compiled := map_error_iff.mp failed
    have confined := confinedTo_compileOperation settings handlers met.path (Template.ofText met.path).url met.shared
      met.verb met.content
    cases confined.faults _ compiled with
    | malformed _ here =>
      rw [Verb.place, Verb.method_eq_upper] at here
      exact here

/-! ### Documents -/

/-- **A malformed document is reported at its first faulty place.** The paths are reported when they are given and no
object. Otherwise all stops before the one that is reported are in order, though handlers may be missing there, and
the one that is reported has the fault that is named, at a place of its own. Whatever comes after it does not
matter. -/
theorem malformed_of_first_fault {document resolved : Tree}
    (resolves : (resolveDocument document).outcome.1 = .ok resolved) {problem : SchemaProblem} {location : Location} :
    (compileDocument settings handlers document).outcome.1 = .error (.malformed problem location) ↔
      ((resolved.field "paths").isTruthy = true ∧ (∀ paths, resolved.field "paths" ≠ .map paths) ∧
          problem = .pathsNotObject ∧ location = "#/paths") ∨
        ∃ before stop after, resolved.stops = before ++ stop :: after ∧
          (∀ other ∈ before, other.Settles settings handlers ∧
            ∀ otherProblem otherLocation, ¬ other.Faulty settings handlers otherProblem otherLocation) ∧
          stop.Faulty settings handlers problem location ∧ stop.Names location := by
  have atPaths : (pathsOf resolved).outcome.1 = .error (.malformed problem location) ↔
      (resolved.field "paths").isTruthy = true ∧ (∀ paths, resolved.field "paths" ≠ .map paths) ∧
        problem = .pathsNotObject ∧ location = "#/paths" := by
    rw [pathsOf_error_iff]
    simp only [reduceCtorEq, and_false, false_or, Failure.malformed.injEq]
  rw [compileDocument_outcome, resolves, ok_bind, compileResolved_fault_iff (malformed_ne_missing _ _),
    atPaths]
  simp only [Stop.result_malformed_iff]
  refine or_congr_right ?_
  constructor
  · rintro ⟨before, stop, after, split, settled, faulty⟩
    exact ⟨before, stop, after, split, fun other member => ⟨settled other member, (settled other member).not_faulty⟩,
      faulty, faulty.names⟩
  · rintro ⟨before, stop, after, split, settled, faulty, _⟩
    exact ⟨before, stop, after, split, fun other member => (settled other member).1, faulty⟩

/-- A document with an operation that has no handler, then one with a parameter that is no object, and then a path
item that is none. -/
def faultsDocument : Tree :=
  .map [("paths", .map [
    ("/users", .map [
      ("get", .map []), ("post", .map [("operationId", .str "PostUser"), ("parameters", .list [.int 5])])]),
    ("/health", .list [])])]

/-- The document after its references are resolved. -/
def faultsResolved : Tree :=
  .map [("paths", .map [
    ("/users", .map [
      ("get", .map []), ("post", .map [("operationId", .str "PostUser"), ("parameters", .list [.int 5])])]),
    ("/health", .list [])]), ("components", .map [])]

theorem first_fault_of_faultsDocument :
    (resolveDocument faultsDocument).outcome.1 = .ok faultsResolved ∧
      ∃ before stop after, faultsResolved.stops = before ++ stop :: after ∧
        (∀ other ∈ before, other.Settles .default [("postUser", .callable "make")] ∧ ∀ otherProblem otherLocation,
          ¬ other.Faulty .default [("postUser", .callable "make")] otherProblem otherLocation) ∧
        stop.Faulty .default [("postUser", .callable "make")] (.parameterNotObject "int") "POST /users" ∧
        stop.Names "POST /users" := by
  have resolves : (resolveDocument faultsDocument).outcome.1 = .ok faultsResolved :=
    resolveDocument_ok_iff.mpr (by decide +kernel)
  have failed : (compileDocument .default [("postUser", .callable "make")] faultsDocument).outcome.1.map List.length =
      .error (.malformed (.parameterNotObject "int") "POST /users") := by
    decide +kernel
  rcases (malformed_of_first_fault resolves).mp (map_error_iff.mp failed) with ⟨_, noMap, _⟩ | first
  · exact absurd rfl (noMap _)
  · exact ⟨resolves, first⟩

end RouteCompiler
