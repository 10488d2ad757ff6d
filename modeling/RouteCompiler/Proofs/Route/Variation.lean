/-
**A document under two settings.**

Settings decide how the schemas of operations are made, and nothing else: which operations there are, what they
are called, which handlers serve them and which are missing. So when the schemas that two settings make for an
operation stand side by side, the routes that they make of a document do as well.

* `Route.Alike`: routes that differ in their schemas alone;
* `parallel_compileOperation`, `parallel_compilePaths`: operations and paths under two settings;
* `parallel_compileDocument`: a document under two settings.
-/

import RouteCompiler.Proofs.Parallel
import RouteCompiler.Proofs.Route.Fault

namespace RouteCompiler

/-! ### Routes that differ in their schemas -/

/-- Two routes are the same but for their schemas, which are related. -/
structure Route.Alike (related : Entries → Entries → Prop) (route other : Route) : Prop where
  method : route.method = other.method
  url : route.url = other.url
  path : route.path = other.path
  operationId : route.operationId = other.operationId
  handlerName : route.handlerName = other.handlerName
  handler : route.handler = other.handler
  schema : related route.schema other.schema

/-- Routes that are alike with the same schemas are the same. -/
theorem Route.Alike.eq {route other : Route} (alike : route.Alike Eq other) : route = other := by
  cases route
  cases other
  obtain ⟨rfl, rfl, rfl, rfl, rfl, rfl, rfl⟩ := alike
  rfl

/-- Two operations become routes that are alike, or lack the same handler. -/
inductive Compiled.Alike (related : Entries → Entries → Prop) : Compiled → Compiled → Prop
  /-- Both become routes. -/
  | route {route other : Route} (alike : route.Alike related other) : Alike related (.route route) (.route other)
  /-- Both lack a handler. -/
  | missing (lacking : MissingHandler) : Alike related (.missing lacking) (.missing lacking)

variable {related : Entries → Entries → Prop} {excused : Failure → Prop}

theorem missing?_of_alike {compiled others : List Compiled}
    (alike : List.Forall₂ (Compiled.Alike related) compiled others) :
    compiled.filterMap Compiled.missing? = others.filterMap Compiled.missing? := by
  induction alike with
  | nil => rfl
  | cons here _ ih =>
    cases here with
    | route => exact ih
    | missing lacking => exact congrArg (lacking :: ·) ih

theorem route?_of_alike {compiled others : List Compiled}
    (alike : List.Forall₂ (Compiled.Alike related) compiled others) :
    List.Forall₂ (Route.Alike related) (compiled.filterMap Compiled.route?) (others.filterMap Compiled.route?) := by
  induction alike with
  | nil => exact .nil
  | cons here _ ih =>
    cases here with
    | route alike => exact .cons alike ih
    | missing => exact ih

theorem parallel_allRoutes {compiled others : List Compiled}
    (alike : List.Forall₂ (Compiled.Alike related) compiled others) :
    Run.Parallel excused (List.Forall₂ (Route.Alike related)) (allRoutes compiled) (allRoutes others) := by
  unfold allRoutes
  dsimp only
  rw [missing?_of_alike alike]
  split
  · exact .pure (route?_of_alike alike)
  · exact .throw _

/-! ### The loops -/

section Loops

variable {settings other : Settings}
  (schemas : ∀ place shared operation, Run.Parallel excused related
    (operationSchema settings place shared operation) (operationSchema other place shared operation))
include schemas

theorem parallel_compileOperation (handlers : Handlers) (path url : String) (shared : Tree) (verb : Verb)
    (operation : Tree) :
    Run.Parallel excused (Compiled.Alike related) (compileOperation settings handlers path url shared verb operation)
      (compileOperation other handlers path url shared verb operation) := by
  unfold compileOperation
  refine .bind_eq (Run.Steady.reportAll _).parallel fun _ => ?_
  split
  · dsimp only
    split
    · refine .bind_eq (Run.Steady.ofExcept _).parallel fun operationId => ?_
      cases handlers.find? (handlerName operationId) with
      | none => exact .pure (.missing _)
      | some handler =>
        exact .bind (schemas _ _ _) fun _ _ holds => .pure (.route ⟨rfl, rfl, rfl, rfl, rfl, rfl, holds⟩)
    · exact .pure (.missing _)
  · exact .throw _

theorem parallel_compileEntries (handlers : Handlers) (path url : String) (shared : Tree) (entries : Entries) :
    Run.Parallel excused (List.Forall₂ (Compiled.Alike related))
      (compileEntries settings handlers path url shared entries)
      (compileEntries other handlers path url shared entries) := by
  induction entries with
  | nil => exact .pure .nil
  | cons entry rest ih =>
    obtain ⟨key, value⟩ := entry
    unfold compileEntries
    split
    · exact ih
    · exact .bind (parallel_compileOperation schemas handlers path url shared _ value) fun _ _ here =>
        .bind ih fun _ _ later => .pure (.cons here later)

theorem parallel_compilePath (handlers : Handlers) (template : Scalar) (item : Tree) :
    Run.Parallel excused (List.Forall₂ (Compiled.Alike related)) (compilePath settings handlers template item)
      (compilePath other handlers template item) := by
  unfold compilePath
  split
  · exact .bind_eq (Run.Steady.reportAll _).parallel fun _ => parallel_compileEntries schemas handlers _ _ _ _
  · exact .throw _
  · exact .throw _

theorem parallel_compilePaths (handlers : Handlers) (paths : Entries) :
    Run.Parallel excused (List.Forall₂ (Compiled.Alike related)) (compilePaths settings handlers paths)
      (compilePaths other handlers paths) := by
  induction paths with
  | nil => exact .pure .nil
  | cons entry rest ih =>
    exact .bind (parallel_compilePath schemas handlers entry.1 entry.2) fun _ _ here =>
      .bind ih fun _ _ later => .pure (List.rel_append here later)

theorem parallel_compileResolved (handlers : Handlers) (document : Tree) :
    Run.Parallel excused (List.Forall₂ (Route.Alike related)) (compileResolved settings handlers document)
      (compileResolved other handlers document) := by
  refine .bind_eq (confined_pathsOf document).steady.parallel fun paths => ?_
  exact .bind (parallel_compilePaths schemas handlers paths) fun _ _ alike => parallel_allRoutes alike

/-- **A document under two settings**: where their schemas stand side by side, so do its routes. -/
theorem parallel_compileDocument (handlers : Handlers) (document : Tree) :
    Run.Parallel excused (List.Forall₂ (Route.Alike related)) (compileDocument settings handlers document)
      (compileDocument other handlers document) := by
  refine .bind_eq (Run.Steady.reportAll _).parallel fun _ => ?_
  refine .bind_eq (steady_resolveDocument document).parallel fun resolved => ?_
  refine .bind_eq (Run.Steady.reportAll _).parallel fun _ => ?_
  refine .bind (parallel_compileResolved schemas handlers resolved) fun routes others alike => ?_
  rw [alike.length_eq]
  exact .bind_eq (Run.Steady.reportAll _).parallel fun _ => .pure alike

end Loops

end RouteCompiler
