/-
**Paths one after another.**

The routes of a document are those of its paths, one path after the other. So when its paths are two maps one
after the other, with no template in both, the document compiles exactly when it compiles with either of the two
for its paths, and its routes are those of the first followed by those of the second. The same holds of the
handlers that are missing: neither part hides what is missing in the other.

* `Compiles`: what becomes of the operations of a document;
* `compileDocument_ok_iff`, `reports_iff`: the routes and the missing handlers of a document, by that;
* `compiles_withPaths_iff`, `compiles_append_iff`: other paths, and paths one after another;
* `routes_of_concatenation`: their routes and their missing handlers.
-/

import RouteCompiler.Proofs.Reference.Portion
import RouteCompiler.Proofs.Route.Coverage

namespace RouteCompiler

variable {settings : Settings} {handlers : Handlers} {document : Tree}

/-! ### What becomes of the operations -/

/-- The references of a document can be resolved, and its operations become routes or are reported. -/
def Compiles (settings : Settings) (handlers : Handlers) (document : Tree) (compiled : List Compiled) : Prop :=
  ∃ resolved paths, (resolveDocument document).outcome.1 = .ok resolved ∧
    (pathsOf resolved).outcome.1 = .ok paths ∧ (compilePaths settings handlers paths).outcome.1 = .ok compiled

/-- What an outcome says about missing handlers. A list of routes says that none is missing. -/
inductive Reports : Except Failure (List Route) → List MissingHandler → Prop
  /-- No handler is missing. -/
  | none (routes : List Route) : Reports (.ok routes) []
  /-- The missing handlers are listed. -/
  | some (missing : List MissingHandler) : Reports (.error (.missing missing)) missing

theorem compileDocument_ok_iff {routes : List Route} :
    (compileDocument settings handlers document).outcome.1 = .ok routes ↔
      Compiles settings handlers document (routes.map .route) := by
  simp only [compileDocument_outcome, compileResolved_outcome, bind_ok_iff, allRoutes_ok_iff]
  constructor
  · rintro ⟨resolved, resolves, paths, given, _, compiles, rfl⟩
    exact ⟨resolved, paths, resolves, given, compiles⟩
  · rintro ⟨resolved, paths, resolves, given, compiles⟩
    exact ⟨resolved, resolves, paths, given, _, compiles, rfl⟩

/-- A document is refused for its missing handlers after all its operations have become something. -/
theorem compileDocument_missing_iff_compiles {missing : List MissingHandler} :
    (compileDocument settings handlers document).outcome.1 = .error (.missing missing) ↔
      missing ≠ [] ∧
        ∃ compiled, Compiles settings handlers document compiled ∧
          missing = compiled.filterMap Compiled.missing? := by
  rw [compileDocument_outcome]
  constructor
  · intro failed
    rcases bind_error_iff.mp failed with atReferences | ⟨resolved, resolves, atResolved⟩
    · exact absurd atReferences (resolveDocument_ne_missing missing)
    · obtain ⟨paths, compiled, given, compiles, same, some⟩ := compileResolved_missing_iff_compiled.mp atResolved
      exact ⟨some, compiled, ⟨resolved, paths, resolves, given, compiles⟩, same⟩
  · rintro ⟨some, compiled, ⟨resolved, paths, resolves, given, compiles⟩, same⟩
    rw [resolves, ok_bind]
    exact compileResolved_missing_iff_compiled.mpr ⟨paths, compiled, given, compiles, same, some⟩

theorem reports_iff {missing : List MissingHandler} :
    Reports (compileDocument settings handlers document).outcome.1 missing ↔
      ∃ compiled, Compiles settings handlers document compiled ∧
        missing = compiled.filterMap Compiled.missing? := by
  constructor
  · intro reports
    generalize outcome : (compileDocument settings handlers document).outcome.1 = result at reports
    cases reports with
    | none routes => exact ⟨_, compileDocument_ok_iff.mp outcome, (eq_map_route_iff.mp rfl).1.symm⟩
    | some => exact (compileDocument_missing_iff_compiles.mp outcome).2
  · rintro ⟨compiled, compiles, rfl⟩
    by_cases none : compiled.filterMap Compiled.missing? = []
    · have all : compiled = (compiled.filterMap Compiled.route?).map .route := eq_map_route_iff.mpr ⟨none, rfl⟩
      rw [compileDocument_ok_iff.mpr (all ▸ compiles), none]
      exact .none _
    · rw [compileDocument_missing_iff_compiles.mpr ⟨none, compiled, compiles, rfl⟩]
      exact .some _

/-- A document is refused for its missing handlers when there are some. -/
theorem compileDocument_missing_iff {missing : List MissingHandler} :
    (compileDocument settings handlers document).outcome.1 = .error (.missing missing) ↔
      missing ≠ [] ∧ Reports (compileDocument settings handlers document).outcome.1 missing := by
  rw [reports_iff, compileDocument_missing_iff_compiles]

/-! ### Two maps of paths -/

theorem compilePaths_append_ok_iff {first second : Entries} {compiled : List Compiled} :
    (compilePaths settings handlers (first ++ second)).outcome.1 = .ok compiled ↔
      ∃ before after, (compilePaths settings handlers first).outcome.1 = .ok before ∧
        (compilePaths settings handlers second).outcome.1 = .ok after ∧ compiled = before ++ after := by
  simp only [compilePaths_ok_iff, List.flatMap_append, List.mapM_append, bind_ok_iff, List.forall_mem_append]
  constructor
  · rintro ⟨⟨shaped, shapedSecond⟩, before, atFirst, after, atSecond, same⟩
    exact ⟨before, after, ⟨shaped, atFirst⟩, ⟨shapedSecond, atSecond⟩, (Except.ok.inj same).symm⟩
  · rintro ⟨before, after, ⟨shaped, atFirst⟩, ⟨shapedSecond, atSecond⟩, rfl⟩
    exact ⟨⟨shaped, shapedSecond⟩, before, atFirst, after, atSecond, rfl⟩

theorem pathsOf_withPaths (rest paths : Entries) :
    (pathsOf ((Tree.map rest).withPaths paths)).outcome.1 = .ok paths := by
  have field : ((Tree.map rest).withPaths paths).field "paths" = .map paths := by
    rw [Tree.field, Tree.withPaths, Tree.get?_map, OrderedMap.get?_insert_self]
    rfl
  exact pathsOf_ok_iff.mpr ⟨⟨_, rfl⟩, fun _ => ⟨paths, field⟩, Tree.paths_of_map field⟩

/-- A document compiles when the rest of it is resolved and its paths settle and compile. -/
theorem compiles_withPaths_iff {registry : Registry} {stated : Tree} (given : document.get? "paths" = some stated)
    (registered : registryOf document = .ok registry) (root : ¬ registry.Refers document) {paths : Entries}
    (stays : ¬ registry.Refers (.map paths)) {compiled : List Compiled} :
    Compiles settings handlers (document.withPaths paths) compiled ↔
      (∃ rest, (resolveDocument (document.withPaths [])).outcome.1 = .ok (.map rest)) ∧
        ∃ results, registry.Settles paths results ∧
          (compilePaths settings handlers results).outcome.1 = .ok compiled := by
  constructor
  · rintro ⟨resolved, inner, resolves, ofResolved, compiles⟩
    obtain ⟨rest, results, elsewhere, settles, rfl⟩ :=
      (resolve_withPaths_iff given registered root stays).mp resolves
    obtain rfl := Except.ok.inj ((pathsOf_withPaths rest results).symm.trans ofResolved)
    exact ⟨⟨rest, elsewhere⟩, results, settles, compiles⟩
  · rintro ⟨⟨rest, elsewhere⟩, results, settles, compiles⟩
    have resolves := (resolve_withPaths_iff given registered root stays).mpr
      ⟨rest, results, elsewhere, settles, rfl⟩
    exact ⟨_, results, resolves, pathsOf_withPaths rest results, compiles⟩

theorem exists_registry_of_compiles {compiled : List Compiled}
    (compiles : Compiles settings handlers document compiled) : ∃ registry, registryOf document = .ok registry := by
  obtain ⟨_, _, resolves, _, _⟩ := compiles
  obtain ⟨registry, registered, _⟩ := bind_ok_iff.mp (resolveDocument_ok_iff.mp resolves).1
  exact ⟨registry, registered⟩

section Concatenation

variable {first second : Entries} (given : document.get? "paths" = some (.map (first ++ second)))
  (disjoint : ∀ key ∈ OrderedMap.keys first, key ∉ OrderedMap.keys second)
  (stays : ∀ registry, registryOf document = .ok registry →
    ¬ registry.Refers document ∧ ¬ registry.Refers (.map (first ++ second)))
include given disjoint stays

/-- **Operations of paths one after another** become what they become in either part. -/
theorem compiles_append_iff {compiled : List Compiled} :
    Compiles settings handlers document compiled ↔
      ∃ before after, Compiles settings handlers (document.withPaths first) before ∧
        Compiles settings handlers (document.withPaths second) after ∧ compiled = before ++ after := by
  -- if the components cannot be registered, nothing compiles, whatever the paths are
  by_cases registers : ∃ registry, registryOf document = .ok registry
  · obtain ⟨registry, registered⟩ := registers
    obtain ⟨root, staysPaths⟩ := stays registry registered
    obtain ⟨staysFirst, staysSecond⟩ := not_or.mp (mt (Registry.refers_append_iff disjoint).mpr staysPaths)
    nth_rewrite 1 [← Tree.withPaths_eq_self given]
    simp only [compiles_withPaths_iff given registered root staysPaths,
      compiles_withPaths_iff given registered root staysFirst,
      compiles_withPaths_iff given registered root staysSecond, Registry.settles_append_iff disjoint]
    constructor
    · rintro ⟨rest, _, ⟨before, after, settles, settlesSecond, rfl⟩, compiles⟩
      obtain ⟨beforeRoutes, afterRoutes, atFirst, atSecond, rfl⟩ := compilePaths_append_ok_iff.mp compiles
      exact ⟨_, _, ⟨rest, before, settles, atFirst⟩, ⟨rest, after, settlesSecond, atSecond⟩, rfl⟩
    · rintro ⟨_, _, ⟨rest, before, settles, atFirst⟩, ⟨_, after, settlesSecond, atSecond⟩, rfl⟩
      exact ⟨rest, _, ⟨before, after, settles, settlesSecond, rfl⟩,
        compilePaths_append_ok_iff.mpr ⟨_, _, atFirst, atSecond, rfl⟩⟩
  · constructor
    · exact fun compiles => absurd (exists_registry_of_compiles compiles) registers
    · rintro ⟨_, _, compiles, _, _⟩
      have registersFirst := exists_registry_of_compiles compiles
      rw [registryOf_withPaths given] at registersFirst
      exact absurd registersFirst registers

theorem reports_append_iff {missing : List MissingHandler} :
    Reports (compileDocument settings handlers document).outcome.1 missing ↔
      ∃ before after, Reports (compileDocument settings handlers (document.withPaths first)).outcome.1 before ∧
        Reports (compileDocument settings handlers (document.withPaths second)).outcome.1 after ∧
        missing = before ++ after := by
  simp only [reports_iff, compiles_append_iff given disjoint stays]
  constructor
  · rintro ⟨_, ⟨before, after, atFirst, atSecond, rfl⟩, rfl⟩
    exact ⟨_, _, ⟨before, atFirst, rfl⟩, ⟨after, atSecond, rfl⟩, List.filterMap_append⟩
  · rintro ⟨_, _, ⟨before, atFirst, rfl⟩, ⟨after, atSecond, rfl⟩, rfl⟩
    exact ⟨_, ⟨before, after, atFirst, atSecond, rfl⟩, List.filterMap_append.symm⟩

/-- **The routes of paths one after another** are those of the first followed by those of the second, and there
are none unless both have theirs. What is missing is what is missing in the first followed by what is missing in
the second. -/
theorem routes_of_concatenation (settings : Settings) (handlers : Handlers) :
    (∀ routes, (compileDocument settings handlers document).outcome.1 = .ok routes ↔
      ∃ before after, (compileDocument settings handlers (document.withPaths first)).outcome.1 = .ok before ∧
        (compileDocument settings handlers (document.withPaths second)).outcome.1 = .ok after ∧
        routes = before ++ after) ∧
    ∀ missing, (compileDocument settings handlers document).outcome.1 = .error (.missing missing) ↔
      ∃ before after, Reports (compileDocument settings handlers (document.withPaths first)).outcome.1 before ∧
        Reports (compileDocument settings handlers (document.withPaths second)).outcome.1 after ∧
        ((compileDocument settings handlers (document.withPaths first)).outcome.1 = .error (.missing before) ∨
          (compileDocument settings handlers (document.withPaths second)).outcome.1 = .error (.missing after)) ∧
        missing = before ++ after := by
  refine ⟨fun routes => ?_, fun missing => ?_⟩
  · simp only [compileDocument_ok_iff, compiles_append_iff given disjoint stays]
    constructor
    · rintro ⟨_, _, atFirst, atSecond, same⟩
      obtain ⟨before, after, rfl, rfl, rfl⟩ := List.map_eq_append_iff.mp same
      exact ⟨before, after, atFirst, atSecond, rfl⟩
    · rintro ⟨before, after, atFirst, atSecond, rfl⟩
      exact ⟨_, _, atFirst, atSecond, List.map_append⟩
  · have some_iff (before after : List MissingHandler) : before ++ after ≠ [] ↔ before ≠ [] ∨ after ≠ [] := by
      rw [Ne, List.append_eq_nil_iff, not_and_or]
    rw [compileDocument_missing_iff, reports_append_iff given disjoint stays]
    constructor
    · rintro ⟨some, before, after, atFirst, atSecond, rfl⟩
      refine ⟨before, after, atFirst, atSecond, ((some_iff before after).mp some).imp ?_ ?_, rfl⟩
      · exact fun someBefore => compileDocument_missing_iff.mpr ⟨someBefore, atFirst⟩
      · exact fun someAfter => compileDocument_missing_iff.mpr ⟨someAfter, atSecond⟩
    · rintro ⟨before, after, atFirst, atSecond, failed, rfl⟩
      refine ⟨(some_iff before after).mpr (failed.imp ?_ ?_), before, after, atFirst, atSecond, rfl⟩
      · exact fun failedFirst => (compileDocument_missing_iff.mp failedFirst).1
      · exact fun failedSecond => (compileDocument_missing_iff.mp failedSecond).1

end Concatenation

theorem routes_of_usersDocument_paths :
    ∃ first second, usersDocument.get? "paths" = some (.map (first ++ second)) ∧
      OrderedMap.keys first = ["/users/\x7bid\x7d"] ∧ OrderedMap.keys second = ["/health"] ∧
      (∀ key ∈ OrderedMap.keys first, key ∉ OrderedMap.keys second) ∧
      (∀ registry, registryOf usersDocument = .ok registry →
        ¬ registry.Refers usersDocument ∧ ¬ registry.Refers (.map (first ++ second))) ∧
      ∀ handlers,
        (∀ routes, (compileDocument .default handlers usersDocument).outcome.1 = .ok routes ↔
          ∃ before after,
            (compileDocument .default handlers (usersDocument.withPaths first)).outcome.1 = .ok before ∧
            (compileDocument .default handlers (usersDocument.withPaths second)).outcome.1 = .ok after ∧
            routes = before ++ after) ∧
        ∀ missing, (compileDocument .default handlers usersDocument).outcome.1 = .error (.missing missing) ↔
          ∃ before after,
            Reports (compileDocument .default handlers (usersDocument.withPaths first)).outcome.1 before ∧
            Reports (compileDocument .default handlers (usersDocument.withPaths second)).outcome.1 after ∧
            ((compileDocument .default handlers (usersDocument.withPaths first)).outcome.1 =
                .error (.missing before) ∨
              (compileDocument .default handlers (usersDocument.withPaths second)).outcome.1 =
                .error (.missing after)) ∧
            missing = before ++ after := by
  have given : usersDocument.get? "paths" =
      some (.map (usersDocument.paths.take 1 ++ usersDocument.paths.drop 1)) := rfl
  have disjoint : ∀ key ∈ OrderedMap.keys (usersDocument.paths.take 1),
      key ∉ OrderedMap.keys (usersDocument.paths.drop 1) := by decide
  have stays (registry : Registry) (_ : registryOf usersDocument = .ok registry) :
      ¬ registry.Refers usersDocument ∧
        ¬ registry.Refers (.map (usersDocument.paths.take 1 ++ usersDocument.paths.drop 1)) :=
    ⟨nofun, nofun⟩
  exact ⟨_, _, given, rfl, rfl, disjoint, stays, routes_of_concatenation given disjoint stays .default⟩

end RouteCompiler
