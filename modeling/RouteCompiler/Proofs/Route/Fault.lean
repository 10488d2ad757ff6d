/-
**What can be wrong with an operation.**

The computations on one operation, from its parameters to its answers, fail with a fault alone, and so do
those on a path and on all paths. So a failure that names missing handlers can only come from the last step,
which collects them. Since no step depends on what was reported before, the outcome of compiling a document
is that of its steps. What is wrong with an operation is reported at a place that starts with its verb and template.

* `StartsWith`, `Schema.Places.startingWith`: the places of an operation;
* `confinedTo_operationSchema`, `confinedTo_compileOperation`: one operation;
* `confined_compilePaths`, `confined_pathsOf`: the paths of a document;
* `compileResolved_outcome`, `compileDocument_outcome`: compiling, step by step.
-/

import RouteCompiler.Proofs.Schema.Fault
import RouteCompiler.Route.Document

namespace RouteCompiler

/-! ### Places -/

/-- A place that is written as the place of an operation, with something put after it. -/
def StartsWith (place : String) (location : Location) : Prop :=
  ∃ rest, location = .str (place ++ rest)

theorem StartsWith.self (place : String) : StartsWith place (.str place) :=
  ⟨"", by rw [String.append_empty]⟩

/-- The places of an operation, with those of the properties inside them. -/
def Schema.Places.startingWith (place : String) (some : place ≠ "") : Schema.Places where
  has := StartsWith place
  property := by
    rintro _ name inner ⟨rest, rfl⟩ named
    have given : (Scalar.str (place ++ rest)).isTruthy = true := by
      have notEmpty : place ++ rest ≠ "" := fun empty => some (String.append_eq_empty_iff.mp empty).1
      simpa [Scalar.isTruthy] using notEmpty
    rw [Schema.propertyLocation, if_pos given] at named
    have written : (Scalar.str (place ++ rest)).spelled = .ok (place ++ rest) := rfl
    rw [written, ok_bind] at named
    obtain ⟨spelled, _, same⟩ := bind_ok_iff.mp named
    cases same
    exact ⟨rest ++ "." ++ spelled, by simp only [String.append_assoc]⟩

/-- A part of an operation is at one of its places. -/
theorem startsWith_placeWithin (place part : String) : StartsWith place (placeWithin (.str place) part) := by
  unfold placeWithin
  split
  · exact ⟨" " ++ part, by simp only [Scalar.display, String.append_assoc]⟩
  · rename_i empty
    have isEmpty : place = "" := by simpa [Scalar.isTruthy] using empty
    exact ⟨part, by rw [isEmpty, String.empty_append]⟩

theorem Verb.place_ne_empty (verb : Verb) (path : String) : verb.place path ≠ "" := by
  intro empty
  rw [place, String.append_assoc] at empty
  have noMethod := (String.append_eq_empty_iff.mp empty).1
  cases verb <;> exact absurd noMethod (by decide)

/-! ### Parameters -/

theorem onlyFaultsAt_declarations {places : Location → Prop} (parameters : Tree) :
    OnlyFaultsAt places (declarations parameters) := by
  unfold declarations
  split
  · split
    · exact .ok _
    · exact .error (.unexpected _)
  · exact .ok _

theorem RequestPart.onlyFaultsAt_ofTree (value : Tree) : OnlyFaultsAt (fun _ => True) (ofTree value) := by
  unfold ofTree
  split
  · exact .ok _
  · exact (Tree.onlyFaultsAt_spelled value).bind fun _ => .error (.malformed _ trivial)

theorem Parameter.onlyFaultsAt_ofTree (tree : Tree) : OnlyFaultsAt (fun _ => True) (ofTree tree) := by
  unfold ofTree
  split
  · rename_i entries
    refine OnlyFaultsAt.bind ?_ fun name => OnlyFaultsAt.bind ?_ fun part => .ok _
    · unfold nameOf
      split
      · split
        · exact .error (.malformed _ trivial)
        · exact .ok _
      · exact .error (.malformed _ trivial)
    · unfold partOf
      split
      · exact .error (.malformed _ trivial)
      · exact RequestPart.onlyFaultsAt_ofTree _
  · exact .error (.malformed _ trivial)

/-- What is wrong with a parameter is reported at its operation. -/
theorem onlyFaultsAt_operationParameterSchemas (settings : Settings) (place : String) (own shared : Tree) :
    OnlyFaultsAt (StartsWith place) (operationParameterSchemas settings place own shared) := by
  have declared : OnlyFaultsAt (StartsWith place) (operationParameters own shared) :=
    (onlyFaultsAt_declarations own).bind fun _ => (onlyFaultsAt_declarations shared).bind fun _ => .ok _
  refine declared.bind fun parameters => ?_
  have schemas : OnlyFaultsAt (fun _ => True) (parameterSchemas settings.deriveRequired parameters) :=
    (OnlyFaultsAt.mapM fun parameter _ => Parameter.onlyFaultsAt_ofTree parameter).bind fun _ => .ok _
  intro failure failed
  cases outcome : parameterSchemas settings.deriveRequired parameters with
  | ok schemas =>
    rw [outcome] at failed
    cases failed
  | error fault =>
    rw [outcome] at failed
    cases failed
    cases schemas fault outcome with
    | malformed problem =>
      refine .malformed problem ?_
      split
      · exact ⟨_, by rw [String.append_assoc]⟩
      · exact .self place
    | unexpected cause => exact .unexpected cause

/-! ### Bodies -/

section Bodies

variable (settings : Settings) {location : Location} (places : Schema.Places)
  (parts : ∀ part, places.has (placeWithin location part))

include parts

theorem confinedTo_requestBody (body : Tree) : (requestBody settings location body).ConfinedTo places.has := by
  unfold requestBody
  split
  · exact .pure _
  · exact (Schema.confinedTo_filterSchema _ places _ _ (parts _) _).bind fun _ => .pure _

theorem confinedTo_responseSchema (status : Scalar) (response : Tree) :
    (responseSchema settings location status response).ConfinedTo places.has := by
  unfold responseSchema
  split
  · exact .pure _
  · exact .bind (.ofExcept status.onlyFaultsAt_spelled) fun _ =>
      (Schema.confinedTo_filterSchema _ places _ _ (parts _) _).bind fun _ => .pure _

theorem confinedTo_collectResponses (collected entries : Entries) :
    (collectResponses settings location collected entries).ConfinedTo places.has := by
  induction entries generalizing collected with
  | nil => exact .pure collected
  | cons entry rest ih =>
    obtain ⟨status, response⟩ := entry
    refine (confinedTo_responseSchema settings places parts status response).bind fun schema? => ?_
    cases schema? with
    | none => exact ih collected
    | some schema => exact ih _

theorem confinedTo_responses (answers : Tree) : (responses settings location answers).ConfinedTo places.has := by
  unfold responses
  split
  · split
    · exact (confinedTo_collectResponses settings places parts [] _).bind fun _ => .pure _
    · exact .throw (.unexpected _)
  · exact .pure _

end Bodies

theorem confined_requestBody (settings : Settings) (location : Location) (body : Tree) :
    (requestBody settings location body).Confined :=
  (confinedTo_requestBody settings .all (fun _ => trivial) body).confined

theorem confined_collectResponses (settings : Settings) (location : Location) (collected entries : Entries) :
    (collectResponses settings location collected entries).Confined :=
  (confinedTo_collectResponses settings .all (fun _ => trivial) collected entries).confined

theorem confined_responses (settings : Settings) (location : Location) (answers : Tree) :
    (responses settings location answers).Confined :=
  (confinedTo_responses settings .all (fun _ => trivial) answers).confined

/-! ### Operations and paths -/

/-- **What is wrong with the schemas of an operation is reported at its places.** -/
theorem confinedTo_operationSchema (settings : Settings) (places : Schema.Places) {place : String}
    (all : ∀ location, StartsWith place location → places.has location) (shared operation : Tree) :
    (operationSchema settings place shared operation).ConfinedTo places.has := by
  have parts (part : String) : places.has (placeWithin (.str place) part) := all _ (startsWith_placeWithin place part)
  have parameters : OnlyFaultsAt places.has
      (operationParameterSchemas settings place (operation.field "parameters") shared) := by
    intro failure failed
    cases onlyFaultsAt_operationParameterSchemas settings place _ shared failure failed with
    | malformed problem here => exact .malformed problem (all _ here)
    | unexpected cause => exact .unexpected cause
  exact .bind (.ofExcept parameters) fun _ =>
    (confinedTo_requestBody settings places parts _).bind fun _ =>
      (confinedTo_responses settings places parts _).bind fun _ => .pure _

theorem confined_operationSchema (settings : Settings) (place : String) (shared operation : Tree) :
    (operationSchema settings place shared operation).Confined :=
  (confinedTo_operationSchema settings .all (fun _ _ => trivial) shared operation).confined

/-- **What is wrong with an operation is reported at its places.** -/
theorem confinedTo_compileOperation (settings : Settings) (handlers : Handlers) (path url : String)
    (shared : Tree) (verb : Verb) (operation : Tree) :
    (compileOperation settings handlers path url shared verb operation).ConfinedTo
      (StartsWith (verb.place path)) := by
  refine .bind (.report _) fun _ => ?_
  split
  · dsimp only
    split
    · refine .bind (.ofExcept (Tree.onlyFaultsAt_spelled _)) fun operationId => ?_
      split
      · exact .pure _
      · exact (confinedTo_operationSchema settings (.startingWith _ (verb.place_ne_empty path))
          (fun _ here => here) shared _).bind fun _ => .pure _
    · exact .pure _
  · exact .throw (.malformed _ (.self _))

theorem confined_compileOperation (settings : Settings) (handlers : Handlers) (path url : String)
    (shared : Tree) (verb : Verb) (operation : Tree) :
    (compileOperation settings handlers path url shared verb operation).Confined :=
  (confinedTo_compileOperation settings handlers path url shared verb operation).confined

theorem confined_compileEntries (settings : Settings) (handlers : Handlers) (path url : String) (shared : Tree)
    (entries : Entries) : (compileEntries settings handlers path url shared entries).Confined := by
  induction entries with
  | nil => exact .pure []
  | cons entry rest ih =>
    obtain ⟨key, value⟩ := entry
    unfold compileEntries
    split
    · exact ih
    · exact (confined_compileOperation settings handlers path url shared _ value).bind fun _ =>
        ih.bind fun _ => .pure _

theorem confined_compilePath (settings : Settings) (handlers : Handlers) (template : Scalar) (item : Tree) :
    (compilePath settings handlers template item).Confined := by
  unfold compilePath
  split
  · exact .bind (.report _) fun _ => confined_compileEntries settings handlers _ _ _ _
  · exact .throw (.unexpected _)
  · exact .throw (Failure.isFault_iff.mpr (Failure.isFaultAt_ofProblem _ trivial))

theorem confined_compilePaths (settings : Settings) (handlers : Handlers) (paths : Entries) :
    (compilePaths settings handlers paths).Confined := by
  induction paths with
  | nil => exact .pure []
  | cons entry rest ih =>
    exact (confined_compilePath settings handlers entry.1 entry.2).bind fun _ => ih.bind fun _ => .pure _

theorem confined_pathsOf (document : Tree) : (pathsOf document).Confined := by
  unfold pathsOf
  split
  · dsimp only
    split
    · split
      · exact .pure _
      · exact .throw (.malformed _ _)
    · exact .pure _
  · exact .throw (.unexpected _)

/-! ### Documents -/

theorem steady_allRoutes (compiled : List Compiled) : (allRoutes compiled).Steady := by
  unfold allRoutes
  dsimp only
  split
  · exact .pure _
  · exact .throw _

theorem steady_resolveDocument (document : Tree) : (resolveDocument document).Steady := by
  unfold resolveDocument
  split
  · refine .bind (.ofExcept _) fun registry => .bind (.reportAll _) fun _ => .bind (.reportAll _) fun _ =>
      .bind (.ofExcept _) fun resolved => ?_
    split
    · exact .pure _
    · exact .throw _
  · exact .throw _

theorem compileResolved_outcome (settings : Settings) (handlers : Handlers) (document : Tree) :
    (compileResolved settings handlers document).outcome.1 =
      (pathsOf document).outcome.1 >>= fun paths =>
        (compilePaths settings handlers paths).outcome.1 >>= fun compiled =>
          (allRoutes compiled).outcome.1 := by
  unfold compileResolved
  rw [Run.outcome_bind _ fun paths =>
    (confined_compilePaths settings handlers paths).steady.bind steady_allRoutes]
  congr 1
  funext paths
  exact Run.outcome_bind _ steady_allRoutes

theorem steady_compileResolved (settings : Settings) (handlers : Handlers) (document : Tree) :
    (compileResolved settings handlers document).Steady :=
  (confined_pathsOf document).steady.bind fun paths =>
    (confined_compilePaths settings handlers paths).steady.bind steady_allRoutes

section Compiling

variable (settings : Settings) (handlers : Handlers) {resolving : Run Tree} (steady : resolving.Steady)
include steady

/-- The outcome of compiling is that of its steps, however references are resolved. -/
theorem compiling_outcome : (compiling settings handlers resolving).outcome.1 =
    resolving.outcome.1 >>= fun resolved => (compileResolved settings handlers resolved).outcome.1 := by
  have later (resolved : Tree) := steady_compileResolved settings handlers resolved
  have last (routes : List Route) : (Run.report (.compiled routes.length) >>= fun _ => pure routes).Steady :=
    .bind (.reportAll _) fun _ => .pure routes
  have reported (resolved : Tree) : (Run.report .compilingDocument >>= fun _ =>
      compileResolved settings handlers resolved >>= fun routes =>
        Run.report (.compiled routes.length) >>= fun _ => pure routes).outcome.1 =
      (compileResolved settings handlers resolved).outcome.1 := by
    rw [Run.outcome_report_bind _ ((later resolved).bind last), Run.outcome_bind_report]
  rw [compiling, Run.outcome_report_bind, Run.outcome_bind]
  · simp only [reported]
  · exact fun resolved => .bind (.reportAll _) fun _ => (later resolved).bind last
  · exact steady.bind fun resolved => .bind (.reportAll _) fun _ => (later resolved).bind last

end Compiling

theorem compileDocument_outcome (settings : Settings) (handlers : Handlers) (document : Tree) :
    (compileDocument settings handlers document).outcome.1 =
      (resolveDocument document).outcome.1 >>= fun resolved =>
        (compileResolved settings handlers resolved).outcome.1 :=
  compiling_outcome settings handlers (steady_resolveDocument document)

end RouteCompiler
