/-
**Where compiling may stop.**

A document is walked through path by path. At each path it is looked at whether the item is an object under a text,
and then each of its operations is compiled. These are the stops of the walk. The first one that fails ends it, and
what comes after it is not looked at. A missing handler ends nothing.

* `Stop`, `Tree.stops`: the stops of a document;
* `Stop.result`: what comes of a stop;
* `compilePaths_outcome`: compiling the paths is going from stop to stop;
* `Stop.Settles`, `Stop.exists_result_iff`: the stops that do not end the walk;
* `compileResolved_fault_iff`: a document has the fault of the first stop that has one.
-/

import RouteCompiler.Proofs.Route.Coverage

namespace RouteCompiler

/-! ### Stops -/

/-- A stop of the walk through a document. -/
inductive Stop where
  /-- A path item under its template. -/
  | item (template : Scalar) (content : Tree)
  /-- An operation. -/
  | operation (operation : Operation)

/-- The stops of a path: its item, then its operations. -/
def stopsAt (entry : Scalar × Tree) : List Stop :=
  .item entry.1 entry.2 :: (operationsAt entry).map .operation

/-- The stops of a document, path by path. -/
def Tree.stops (document : Tree) : List Stop :=
  document.paths.flatMap stopsAt

variable {settings : Settings} {handlers : Handlers}

/-- What comes of a stop: nothing of a path item, and of an operation what becomes of it. -/
def Stop.result (settings : Settings) (handlers : Handlers) : Stop → Except Failure (Option Compiled)
  | .item (.str _) (.map _) => .ok none
  | .item template (.map _) => .error (.unexpected (.templateNotText template.kind))
  | .item template _ => .error (.ofProblem .pathItemNotObject template)
  | .operation met => (met.compiled settings handlers).map some

/-- The stop does not end the walk: an item is an object under a text, and an operation is an object that is served
or lacks a handler. -/
inductive Stop.Settles (settings : Settings) (handlers : Handlers) : Stop → Prop
  /-- The path item is walked into. -/
  | item (path : String) (entries : Entries) : Settles settings handlers (.item (.str path) (.map entries))
  /-- The operation becomes something. -/
  | operation {met : Operation} (object : ∃ entries, met.content = .map entries) {compiled : Compiled}
      (becomes : Becomes settings handlers met compiled) : Settles settings handlers (.operation met)

theorem Stop.exists_result_iff {stop : Stop} :
    (∃ compiled, stop.result settings handlers = .ok compiled) ↔ stop.Settles settings handlers := by
  cases stop with
  | item template content =>
    unfold result
    constructor
    · rintro ⟨compiled, same⟩
      split at same
      · rename_i isItem
        cases isItem
        exact .item _ _
      · cases same
      · cases same
      · rename_i isItem
        cases isItem
    · rintro (⟨path, entries⟩ | _)
      exact ⟨none, rfl⟩
  | operation met =>
    rw [result]
    constructor
    · rintro ⟨_, same⟩
      obtain ⟨compiled, compiles, _⟩ := map_ok_iff.mp same
      obtain ⟨object, becomes⟩ := Operation.compiled_eq_ok_iff.mp compiles
      exact .operation object becomes
    · rintro (_ | ⟨object, becomes⟩)
      exact ⟨_, map_ok_iff.mpr ⟨_, Operation.compiled_eq_ok_iff.mpr ⟨object, becomes⟩, rfl⟩⟩

theorem Stop.result_of_not_object {template : Scalar} {content : Tree}
    (noObject : ∀ entries, content ≠ .map entries) :
    (Stop.item template content).result settings handlers = .error (.ofProblem .pathItemNotObject template) := by
  rw [result]
  · exact fun _ entries _ isMap => noObject entries isMap
  · exact noObject

/-! ### The walk -/

theorem mapM_operation_result (operations : List Operation) :
    (operations.map Stop.operation).mapM (Stop.result settings handlers) =
      (operations.mapM (Operation.compiled settings handlers)).map (List.map some) := by
  induction operations with
  | nil => rfl
  | cons operation rest ih =>
    rw [List.map_cons, List.mapM_cons, List.mapM_cons, ih, Stop.result]
    cases operation.compiled settings handlers with
    | error failure => rfl
    | ok compiled =>
      cases rest.mapM (Operation.compiled settings handlers) with
      | error failure => rfl
      | ok others => rfl

theorem compilePath_outcome (template : Scalar) (item : Tree) :
    (compilePath settings handlers template item).outcome.1 =
      ((stopsAt (template, item)).mapM (Stop.result settings handlers)).map (List.filterMap id) := by
  unfold compilePath
  split
  · rename_i entries path
    have steady : (compileOperations settings handlers path (Template.ofText path).url entries).Steady :=
      (confined_compileEntries settings handlers path _ _ entries).steady
    dsimp only
    rw [Run.outcome_report_bind _ steady, compileOperations, compileEntries_outcome, stopsAt, List.mapM_cons,
      mapM_operation_result, Stop.result, ok_bind]
    show (operationsAt (.str path, .map entries)).mapM (Operation.compiled settings handlers) = _
    cases (operationsAt (.str path, .map entries)).mapM (Operation.compiled settings handlers) with
    | error failure => rfl
    | ok compiled => exact congrArg Except.ok (by simp)
  · rename_i entries other notText
    rw [stopsAt, List.mapM_cons, Stop.result]
    · rfl
    · exact notText
  · rename_i noMap _
    rw [stopsAt, List.mapM_cons, Stop.result_of_not_object noMap]
    rfl

/-- **Compiling paths is going from stop to stop.** -/
theorem compilePaths_outcome (paths : Entries) :
    (compilePaths settings handlers paths).outcome.1 =
      ((paths.flatMap stopsAt).mapM (Stop.result settings handlers)).map (List.filterMap id) := by
  induction paths with
  | nil => rfl
  | cons entry rest ih =>
    have later := (confined_compilePaths settings handlers rest).steady
    rw [compilePaths, Run.outcome_bind _ fun _ => later.bind fun _ => .pure _, compilePath_outcome,
      List.flatMap_cons, List.mapM_append]
    simp only [Run.outcome_bind _ fun _ => Run.Steady.pure _, ih]
    cases (stopsAt entry).mapM (Stop.result settings handlers) with
    | error failure => rfl
    | ok here =>
      cases (rest.flatMap stopsAt).mapM (Stop.result settings handlers) with
      | error failure => rfl
      | ok others => exact congrArg Except.ok List.filterMap_append.symm

/-! ### Documents -/

variable {document : Tree}

/-- Paths cannot be walked through when they are no object, or when the document is none. -/
theorem pathsOf_error_iff {failure : Failure} :
    (pathsOf document).outcome.1 = .error failure ↔
      ((∀ entries, document ≠ .map entries) ∧ failure = .unexpected (.notAnObject document.kind)) ∨
        ((document.field "paths").isTruthy = true ∧ (∀ paths, document.field "paths" ≠ .map paths) ∧
          failure = .malformed .pathsNotObject "#/paths") := by
  cases document with
  | map entries =>
    refine Iff.trans ?_ (or_iff_right fun noMap => absurd rfl (noMap.1 entries)).symm
    unfold pathsOf
    dsimp only
    split
    · rename_i given
      split
      · rename_i paths isMap
        exact ⟨nofun, fun noMap => absurd isMap (noMap.2.1 paths)⟩
      · rename_i noMap
        constructor
        · exact fun same => ⟨given, noMap, (Except.error.inj same).symm⟩
        · exact fun same => congrArg Except.error same.2.2.symm
    · rename_i absent
      exact ⟨nofun, fun given => absurd given.1 absent⟩
  | _ =>
    refine Iff.trans ?_ (or_iff_left fun given => nomatch given.1).symm
    exact ⟨fun same => ⟨nofun, (Except.error.inj same).symm⟩, fun same => congrArg Except.error same.2.symm⟩

/-- Where there is a path, the paths can be walked through. -/
theorem pathsOf_of_mem {entry : Scalar × Tree} (member : entry ∈ document.paths) :
    (pathsOf document).outcome.1 = .ok document.paths := by
  have isMap := Tree.field_paths_of_mem member
  refine pathsOf_ok_iff.mpr ⟨?_, fun _ => ⟨_, isMap⟩, rfl⟩
  cases document with
  | map entries => exact ⟨entries, rfl⟩
  | _ => cases isMap

/-- **A document has the fault of the first stop that has one**, if its paths can be walked through. What is missing
is reported only after the walk. -/
theorem compileResolved_fault_iff {failure : Failure} (notMissing : ∀ missing, failure ≠ .missing missing) :
    (compileResolved settings handlers document).outcome.1 = .error failure ↔
      (pathsOf document).outcome.1 = .error failure ∨
        ∃ before stop after, document.stops = before ++ stop :: after ∧
          (∀ other ∈ before, other.Settles settings handlers) ∧ stop.result settings handlers = .error failure := by
  have walk (paths : Entries) : (compilePaths settings handlers paths).outcome.1 = .error failure ↔
      ∃ before stop after, paths.flatMap stopsAt = before ++ stop :: after ∧
        (∀ other ∈ before, other.Settles settings handlers) ∧ stop.result settings handlers = .error failure := by
    rw [compilePaths_outcome, map_error_iff, mapM_error_iff]
    simp only [Stop.exists_result_iff]
  rw [compileResolved_outcome, bind_error_iff]
  refine or_congr_right ⟨?_, ?_⟩
  · rintro ⟨paths, given, later⟩
    obtain ⟨_, _, rfl⟩ := pathsOf_ok_iff.mp given
    rcases bind_error_iff.mp later with atStop | ⟨compiled, _, last⟩
    · exact (walk document.paths).mp atStop
    · exact absurd (allRoutes_error_iff.mp last).1 (notMissing _)
  · rintro ⟨before, stop, after, split, settled, atStop⟩
    have member : stop ∈ document.stops := split ▸ List.mem_append_right _ List.mem_cons_self
    obtain ⟨entry, inPaths, _⟩ := List.mem_flatMap.mp member
    refine ⟨_, pathsOf_of_mem inPaths, bind_error_iff.mpr (Or.inl ?_)⟩
    exact (walk document.paths).mpr ⟨before, stop, after, split, settled, atStop⟩

end RouteCompiler
