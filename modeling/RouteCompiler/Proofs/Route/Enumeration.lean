/-
**The operations of a document, in order.**

A document is walked path by path, and each path item key by key; the operations are what stands under a verb.
Compiling them in this order, one by one, is what the loops of the compiler come to: no operation is skipped
or met twice, and nothing else becomes a route or is reported as missing.

* `Tree.operations`: the operations of a document;
* `Tree.Orderly`: a document in which everything that is walked through has its shape;
* `compileEntries_outcome`, `compilePaths_ok_iff`: the loops;
* `compileResolved_ok_iff`: a document is compiled when every operation is served, each by its route;
* `compileResolved_missing_iff`: what is reported when handlers are missing.
-/

import RouteCompiler.Proofs.Route.Service
import RouteCompiler.Proofs.Tree.Matched

namespace RouteCompiler

variable {settings : Settings} {handlers : Handlers}

/-! ### The walk -/

/-- The operation of an entry of a path item, if its key is that of a verb. -/
def Operation.ofEntry? (path : String) (item : Entries) (entry : Scalar × Tree) : Option Operation :=
  (Verb.ofKey? entry.1).map fun verb => ⟨path, item, verb, entry.2⟩

/-- The operations of a path, if its template is a text and its item is an object. -/
def operationsAt : Scalar × Tree → List Operation
  | (.str path, .map item) => item.filterMap (Operation.ofEntry? path item)
  | _ => []

namespace Tree

/-- The paths of a document. -/
def paths (document : Tree) : Entries :=
  (document.field "paths").entries?.getD []

/-- The operations of a document, path by path and verb by verb as they stand there. -/
def operations (document : Tree) : List Operation :=
  document.paths.flatMap operationsAt

/-- A document whose paths, if it has any, are an object with texts for templates and objects for items, and
whose operations are objects. -/
structure Orderly (document : Tree) : Prop where
  isObject : ∃ entries, document = .map entries
  paths : (document.field "paths").isTruthy = true → ∃ paths, document.field "paths" = .map paths
  items : ∀ entry ∈ document.paths, ∃ path item, entry = (.str path, .map item)
  operations : ∀ operation ∈ document.operations, ∃ entries, operation.content = .map entries

end Tree

/-! ### The loops -/

/-- Entries are gone through operation by operation, whatever the routing pattern of the path is. -/
theorem compileEntries_eq_mapM {path url : String} {item : Entries} {step : Operation → Except Failure Compiled}
    (atOperation : ∀ verb content,
      (compileOperation settings handlers path url ((Tree.map item).field "parameters") verb content).outcome.1 =
        step ⟨path, item, verb, content⟩)
    (entries : Entries) :
    (compileEntries settings handlers path url ((Tree.map item).field "parameters") entries).outcome.1 =
      (entries.filterMap (Operation.ofEntry? path item)).mapM step := by
  induction entries with
  | nil => rfl
  | cons entry rest ih =>
    obtain ⟨key, value⟩ := entry
    rw [compileEntries]
    split
    · rename_i noVerb
      have skipped : Operation.ofEntry? path item (key, value) = none := by rw [Operation.ofEntry?, noVerb]; rfl
      rw [ih, List.filterMap_cons_none skipped]
    · rename_i verb isVerb
      have met : Operation.ofEntry? path item (key, value) = some ⟨path, item, verb, value⟩ := by
        rw [Operation.ofEntry?, isVerb]
        rfl
      have later := (confined_compileEntries settings handlers path url ((Tree.map item).field "parameters") rest).steady
      rw [List.filterMap_cons_some met, List.mapM_cons, Run.outcome_bind _ fun _ => later.bind fun _ => .pure _,
        atOperation]
      refine congrArg (Except.bind _) (funext fun compiled => ?_)
      rw [Run.outcome_bind _ fun _ => .pure _, ih]
      rfl

theorem compileEntries_outcome (path : String) (item entries : Entries) :
    (compileEntries settings handlers path (Template.ofText path).url ((Tree.map item).field "parameters")
        entries).outcome.1 =
      (entries.filterMap (Operation.ofEntry? path item)).mapM (Operation.compiled settings handlers) :=
  compileEntries_eq_mapM (fun _ _ => rfl) entries

theorem compilePath_ok_iff {template : Scalar} {item : Tree} {compiled : List Compiled} :
    (compilePath settings handlers template item).outcome.1 = .ok compiled ↔
      (∃ path entries, (template, item) = (.str path, .map entries)) ∧
        (operationsAt (template, item)).mapM (Operation.compiled settings handlers) = .ok compiled := by
  unfold compilePath
  split
  · rename_i entries path
    have steady : (compileOperations settings handlers path (Template.ofText path).url entries).Steady :=
      (confined_compileEntries settings handlers path _ _ entries).steady
    rw [operationsAt, ← compileEntries_outcome]
    dsimp only
    rw [Run.outcome_report_bind _ steady]
    exact ⟨fun compiles => ⟨⟨path, entries, rfl⟩, compiles⟩, fun shaped => shaped.2⟩
  · rename_i entries other notText
    constructor
    · intro failed
      cases failed
    · rintro ⟨⟨path, _, same⟩, _⟩
      cases same
      exact absurd rfl (notText path)
  · rename_i notObject
    constructor
    · intro failed
      cases failed
    · rintro ⟨⟨path, entries, same⟩, _⟩
      cases same
      exact (notObject entries path rfl rfl).elim

theorem compilePaths_ok_iff {paths : Entries} {compiled : List Compiled} :
    (compilePaths settings handlers paths).outcome.1 = .ok compiled ↔
      (∀ entry ∈ paths, ∃ path item, entry = (.str path, .map item)) ∧
        (paths.flatMap operationsAt).mapM (Operation.compiled settings handlers) = .ok compiled := by
  induction paths generalizing compiled with
  | nil => exact ⟨fun same => ⟨nofun, same⟩, fun shaped => shaped.2⟩
  | cons entry rest ih =>
    have later := (confined_compilePaths settings handlers rest).steady
    rw [compilePaths, Run.outcome_bind _ fun _ => later.bind fun _ => .pure _, bind_ok_iff,
      List.forall_mem_cons, List.flatMap_cons, List.mapM_append, bind_ok_iff]
    simp only [Run.outcome_bind _ fun _ => Run.Steady.pure _, bind_ok_iff, compilePath_ok_iff, ih]
    constructor
    · rintro ⟨first, ⟨shaped, atFirst⟩, others, ⟨shapedRest, atRest⟩, same⟩
      exact ⟨⟨shaped, shapedRest⟩, first, atFirst, others, atRest, same⟩
    · rintro ⟨⟨shaped, shapedRest⟩, first, atFirst, others, atRest, same⟩
      exact ⟨first, ⟨shaped, atFirst⟩, others, ⟨shapedRest, atRest⟩, same⟩

/-! ### First and last step -/

theorem Tree.paths_of_map {document : Tree} {paths : Entries} (given : document.field "paths" = .map paths) :
    document.paths = paths := by
  rw [Tree.paths, given]
  rfl

/-- Where there is a path, the paths are an object. -/
theorem Tree.field_paths_of_mem {document : Tree} {entry : Scalar × Tree} (member : entry ∈ document.paths) :
    document.field "paths" = .map document.paths := by
  cases given : document.field "paths" with
  | map paths => rw [Tree.paths_of_map given]
  | _ =>
    rw [Tree.paths, given] at member
    cases member

/-- Paths that count as absent are none. -/
theorem Tree.paths_of_not_isTruthy {document : Tree} (absent : ¬ (document.field "paths").isTruthy = true) :
    document.paths = [] := by
  rw [Tree.paths]
  cases given : document.field "paths" with
  | map paths =>
    rw [given] at absent
    cases paths with
    | nil => rfl
    | cons first rest => exact absurd rfl absent
  | _ => rfl

theorem pathsOf_ok_iff {document : Tree} {paths : Entries} :
    (pathsOf document).outcome.1 = .ok paths ↔
      (∃ entries, document = .map entries) ∧
        ((document.field "paths").isTruthy = true → ∃ paths, document.field "paths" = .map paths) ∧
        document.paths = paths := by
  unfold pathsOf
  split
  · rename_i entries
    dsimp only
    split
    · split
      · rename_i given
        rw [Tree.paths_of_map given, given]
        exact ⟨fun same => ⟨⟨_, rfl⟩, fun _ => ⟨_, rfl⟩, Except.ok.inj same⟩,
          fun shaped => congrArg Except.ok shaped.2.2⟩
      · rename_i truthy _ noMap
        constructor
        · intro failed
          cases failed
        · rintro ⟨_, isMap, _⟩
          obtain ⟨given, same⟩ := isMap truthy
          exact absurd same (noMap given)
    · rename_i absent
      rw [Tree.paths_of_not_isTruthy absent]
      exact ⟨fun same => ⟨⟨_, rfl⟩, fun truthy => absurd truthy absent, Except.ok.inj same⟩,
        fun shaped => congrArg Except.ok shaped.2.2⟩
  · rename_i noMap
    constructor
    · intro failed
      cases failed
    · rintro ⟨⟨entries, same⟩, _⟩
      exact absurd same (noMap entries)

/-- Operations are all compiled to routes when no handler is missing. -/
theorem eq_map_route_iff {compiled : List Compiled} {routes : List Route} :
    compiled = routes.map .route ↔
      compiled.filterMap Compiled.missing? = [] ∧ compiled.filterMap Compiled.route? = routes := by
  constructor
  · rintro rfl
    simp [List.filterMap_map, Function.comp_def, Compiled.missing?, Compiled.route?]
  · rintro ⟨none, rfl⟩
    induction compiled with
    | nil => rfl
    | cons first rest ih =>
      cases first with
      | route made => exact congrArg (.route made :: ·) (ih none)
      | missing lacking => cases none

theorem allRoutes_ok_iff {compiled : List Compiled} {routes : List Route} :
    (allRoutes compiled).outcome.1 = .ok routes ↔ compiled = routes.map .route := by
  rw [eq_map_route_iff]
  unfold allRoutes
  dsimp only
  split
  · rename_i none
    exact ⟨fun same => ⟨List.isEmpty_iff.mp none, Except.ok.inj same⟩, fun all => congrArg Except.ok all.2⟩
  · rename_i some
    exact ⟨nofun, fun all => absurd (List.isEmpty_iff.mpr all.1) some⟩

theorem allRoutes_error_iff {compiled : List Compiled} {failure : Failure} :
    (allRoutes compiled).outcome.1 = .error failure ↔
      failure = .missing (compiled.filterMap Compiled.missing?) ∧
        compiled.filterMap Compiled.missing? ≠ [] := by
  unfold allRoutes
  dsimp only
  split
  · rename_i none
    exact ⟨nofun, fun some => absurd (List.isEmpty_iff.mp none) some.2⟩
  · rename_i some
    rw [List.isEmpty_iff] at some
    exact ⟨fun same => ⟨(Except.error.inj same).symm, some⟩, fun same => congrArg Except.error same.1.symm⟩

/-! ### Documents -/

variable {document : Tree}

/-- An orderly document is one whose operations can be compiled one by one. -/
theorem compiled_of_document_iff {compiled : List Compiled} :
    (∃ paths, (pathsOf document).outcome.1 = .ok paths ∧
        (compilePaths settings handlers paths).outcome.1 = .ok compiled) ↔
      document.Orderly ∧ List.Forall₂ (Becomes settings handlers) document.operations compiled := by
  simp only [pathsOf_ok_iff, compilePaths_ok_iff, mapM_ok_iff, Operation.compiled_eq_ok_iff]
  constructor
  · rintro ⟨_, ⟨isObject, paths, rfl⟩, items, become⟩
    refine ⟨⟨isObject, paths, items, fun operation member => ?_⟩, become.imp fun _ _ further => further.2⟩
    obtain ⟨_, _, object, _⟩ := exists_right_of_mem become member
    exact object
  · rintro ⟨⟨isObject, paths, items, operations⟩, become⟩
    refine ⟨_, ⟨isObject, paths, rfl⟩, items, ?_⟩
    exact forall₂_imp_of_mem (fun operation member _ further => ⟨operations operation member, further⟩) become

/-- **A document is compiled when each of its operations is served**, by one route after the other. -/
theorem compileResolved_ok_iff {routes : List Route} :
    (compileResolved settings handlers document).outcome.1 = .ok routes ↔
      document.Orderly ∧ List.Forall₂ (Serves settings handlers) document.operations routes := by
  have served (operation : Operation) (route : Route) :
      Becomes settings handlers operation (.route route) ↔ Serves settings handlers operation route :=
    ⟨fun become => by cases become; assumption, .served⟩
  rw [compileResolved_outcome, bind_ok_iff]
  simp only [bind_ok_iff, allRoutes_ok_iff]
  constructor
  · rintro ⟨paths, given, _, compiles, rfl⟩
    obtain ⟨orderly, become⟩ := compiled_of_document_iff.mp ⟨paths, given, compiles⟩
    rw [List.forall₂_map_right_iff] at become
    exact ⟨orderly, become.imp fun operation route => (served operation route).mp⟩
  · rintro ⟨orderly, serve⟩
    have become : List.Forall₂ (Becomes settings handlers) document.operations (routes.map .route) :=
      List.forall₂_map_right_iff.mpr (serve.imp fun operation route => (served operation route).mpr)
    obtain ⟨paths, given, compiles⟩ := compiled_of_document_iff.mpr ⟨orderly, become⟩
    exact ⟨paths, given, _, compiles, rfl⟩

/-- The operations that lack a handler are reported in the order in which they are walked. -/
theorem missing_of_becomes {operations : List Operation} {compiled : List Compiled}
    (become : List.Forall₂ (Becomes settings handlers) operations compiled) :
    compiled.filterMap Compiled.missing? = operations.filterMap (Operation.lack? handlers) := by
  induction become with
  | nil => rfl
  | cons here _ ih =>
    cases here with
    | served serves => rw [List.filterMap_cons_none serves.lack?_eq_none, List.filterMap_cons_none rfl, ih]
    | missing lacks => exact (congrArg _ ih).trans (List.filterMap_cons_some lacks).symm

/-- Operations become something when the names of all can be spelled and those that have a handler are served. -/
theorem exists_becomes_iff {operations : List Operation} :
    (∃ compiled, List.Forall₂ (Becomes settings handlers) operations compiled) ↔
      ∀ operation ∈ operations, operation.IsNameable ∧
        (operation.HasHandler handlers → ∃ route, Serves settings handlers operation route) := by
  simp only [← served_or_lacks_iff]
  constructor
  · rintro ⟨compiled, become⟩ operation member noLack
    obtain ⟨_, _, here⟩ := exists_right_of_mem become member
    cases here with
    | served serves => exact ⟨_, serves⟩
    | missing lacks => cases noLack.symm.trans lacks
  · intro serve
    induction operations with
    | nil => exact ⟨[], .nil⟩
    | cons operation rest ih =>
      obtain ⟨serveFirst, serveRest⟩ := List.forall_mem_cons.mp serve
      obtain ⟨others, become⟩ := ih serveRest
      cases lack : operation.lack? handlers with
      | none =>
        obtain ⟨route, serves⟩ := serveFirst lack
        exact ⟨_, .cons (.served serves) become⟩
      | some lacking => exact ⟨_, .cons (.missing lack) become⟩

/-- Something is reported when an operation has no handler. -/
theorem lacking_ne_nil_iff {operations : List Operation}
    (nameable : ∀ operation ∈ operations, operation.IsNameable) :
    operations.filterMap (Operation.lack? handlers) ≠ [] ↔
      ∃ operation ∈ operations, ¬ operation.HasHandler handlers := by
  rw [Ne, List.filterMap_eq_nil_iff, not_forall₂]
  refine exists_congr fun operation => ⟨?_, ?_⟩
  · rintro ⟨member, lacks⟩
    exact ⟨member, mt (Operation.lack?_eq_none_iff (nameable operation member)).mpr lacks⟩
  · rintro ⟨member, noHandler⟩
    exact ⟨member, mt (Operation.lack?_eq_none_iff (nameable operation member)).mp noHandler⟩

/-- Missing handlers are reported after every operation has become something. -/
theorem compileResolved_missing_iff_compiled {missing : List MissingHandler} :
    (compileResolved settings handlers document).outcome.1 = .error (.missing missing) ↔
      ∃ paths compiled, (pathsOf document).outcome.1 = .ok paths ∧
        (compilePaths settings handlers paths).outcome.1 = .ok compiled ∧
        missing = compiled.filterMap Compiled.missing? ∧ missing ≠ [] := by
  rw [compileResolved_outcome]
  constructor
  · intro failed
    rcases bind_error_iff.mp failed with atPaths | ⟨paths, given, later⟩
    · cases (confined_pathsOf document).faults _ atPaths
    · rcases bind_error_iff.mp later with atOperation | ⟨compiled, compiles, last⟩
      · cases (confined_compilePaths settings handlers paths).faults _ atOperation
      · obtain ⟨same, some⟩ := allRoutes_error_iff.mp last
        cases same
        exact ⟨paths, compiled, given, compiles, rfl, some⟩
  · rintro ⟨paths, compiled, given, compiles, rfl, some⟩
    rw [given, ok_bind, compiles, ok_bind]
    exact allRoutes_error_iff.mpr ⟨rfl, some⟩

/-- **Missing handlers are reported when all else is in order**: those of all operations, as they are walked. -/
theorem compileResolved_missing_iff {missing : List MissingHandler} :
    (compileResolved settings handlers document).outcome.1 = .error (.missing missing) ↔
      document.Orderly ∧
        (∀ operation ∈ document.operations, operation.IsNameable ∧
          (operation.HasHandler handlers → ∃ route, Serves settings handlers operation route)) ∧
        (∃ operation ∈ document.operations, ¬ operation.HasHandler handlers) ∧
        missing = document.operations.filterMap (Operation.lack? handlers) := by
  rw [compileResolved_missing_iff_compiled]
  constructor
  · rintro ⟨paths, compiled, given, compiles, rfl, some⟩
    obtain ⟨orderly, become⟩ := compiled_of_document_iff.mp ⟨paths, given, compiles⟩
    have serve := exists_becomes_iff.mp ⟨compiled, become⟩
    rw [missing_of_becomes become] at some ⊢
    exact ⟨orderly, serve, (lacking_ne_nil_iff fun _ member => (serve _ member).1).mp some, rfl⟩
  · rintro ⟨orderly, serve, lacking, rfl⟩
    obtain ⟨compiled, become⟩ := exists_becomes_iff.mpr serve
    obtain ⟨paths, given, compiles⟩ := compiled_of_document_iff.mpr ⟨orderly, become⟩
    have some := (lacking_ne_nil_iff fun _ member => (serve _ member).1).mpr lacking
    exact ⟨paths, compiled, given, compiles, (missing_of_becomes become).symm, some⟩

end RouteCompiler
