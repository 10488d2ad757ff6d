/-
**What becomes of one operation.**

An operation that is named and for whose name a handler is registered becomes a route, if its schema can be
compiled. One that is not named, or whose handler is not registered, is reported as missing, whatever its
schema. A name that cannot be spelled is a fault of the operation, like a schema that cannot be compiled.

* `Serves`: a route that serves an operation;
* `Operation.HasHandler`, `Operation.lack?`: operations with a handler, and how others are reported;
* `Becomes`, `Operation.compiled_eq_ok_iff`: what an operation is compiled to;
* `served_or_lacks_iff`: when an operation is served or reported.
-/

import RouteCompiler.Proofs.Route.Operation

namespace RouteCompiler

variable {settings : Settings} {handlers : Handlers} {operation : Operation}

/-- A route serves an operation: it stands where the operation stands, and it is bound to the callable that the
handlers have for the name of the operation. -/
structure Serves (settings : Settings) (handlers : Handlers) (operation : Operation) (route : Route) :
    Prop where
  path : route.path = operation.path
  method : route.method = Text.upper operation.verb.key
  url : route.url = (Template.ofText operation.path).url
  named : operation.identifier.isTruthy = true
  operationId : operation.identifier.spelled = .ok route.operationId
  handlerName : route.handlerName = handlerName route.operationId
  handler : OrderedMap.get? handlers route.handlerName = some (.callable route.handler)
  schema : HasSchema settings operation route.schema

namespace Operation

/-- The name of the operation, if it has one, can be spelled. -/
def IsNameable (operation : Operation) : Prop :=
  operation.identifier.isTruthy = true → ∃ name, operation.identifier.spelled = .ok name

/-- The operation is named, and a handler is registered for its name. -/
def HasHandler (handlers : Handlers) (operation : Operation) : Prop :=
  operation.identifier.isTruthy = true ∧
    ∃ name label, operation.identifier.spelled = .ok name ∧ handlers.find? (handlerName name) = some label

/-- How an operation is reported for which no handler is found: without names if it is not named, else with its
name and that of the handler. -/
def lack? (handlers : Handlers) (operation : Operation) : Option MissingHandler :=
  if operation.identifier.isTruthy then
    match operation.identifier.spelled with
    | .ok name =>
      match handlers.find? (handlerName name) with
      | none => some ⟨operation.path, operation.verb.key, some name, some (handlerName name)⟩
      | some _ => none
    | .error _ => none
  else some ⟨operation.path, operation.verb.key, none, none⟩

/-- The route of the operation under a name, with the handler and the schema that are found for it. -/
def bound (operation : Operation) (operationId label : String) (schema : Entries) : Route where
  method := operation.verb.method
  url := (Template.ofText operation.path).url
  path := operation.path
  operationId
  handlerName := handlerName operationId
  handler := label
  schema

/-- What becomes of the operation. -/
def compiled (settings : Settings) (handlers : Handlers) (operation : Operation) : Except Failure Compiled :=
  (compileOperation settings handlers operation.path (Template.ofText operation.path).url operation.shared
    operation.verb operation.content).outcome.1

end Operation

/-- What an operation that is an object becomes. -/
inductive Becomes (settings : Settings) (handlers : Handlers) (operation : Operation) : Compiled → Prop
  /-- It is served. -/
  | served {route : Route} (serves : Serves settings handlers operation route) :
    Becomes settings handlers operation (.route route)
  /-- It lacks a handler. -/
  | missing {lacking : MissingHandler} (lacks : operation.lack? handlers = some lacking) :
    Becomes settings handlers operation (.missing lacking)

namespace Operation

/-! ### Its handler -/

/-- A named operation lacks a handler when its name can be spelled and no handler is registered for it. -/
theorem lack?_of_named (named : operation.identifier.isTruthy = true) {lacking : MissingHandler} :
    operation.lack? handlers = some lacking ↔
      ∃ name, operation.identifier.spelled = .ok name ∧ handlers.find? (handlerName name) = none ∧
        lacking = ⟨operation.path, operation.verb.key, some name, some (handlerName name)⟩ := by
  rw [lack?, if_pos named]
  constructor
  · intro lacks
    split at lacks
    · rename_i name spelled
      split at lacks
      · rename_i absent
        cases lacks
        exact ⟨name, spelled, absent, rfl⟩
      · cases lacks
    · cases lacks
  · rintro ⟨name, spelled, absent, rfl⟩
    simp only [spelled, absent]

/-- An operation that has no handler lacks it, as far as its name can be spelled. -/
theorem lack?_eq_none_iff (nameable : operation.IsNameable) :
    operation.lack? handlers = none ↔ operation.HasHandler handlers := by
  rw [lack?]
  constructor
  · intro noLack
    split at noLack
    · rename_i named
      obtain ⟨name, spelled⟩ := nameable named
      cases found : handlers.find? (handlerName name) with
      | none => simp only [spelled, found] at noLack; cases noLack
      | some label => exact ⟨named, name, label, spelled, found⟩
    · cases noLack
  · rintro ⟨named, name, label, spelled, found⟩
    simp only [if_pos named, spelled, found]

/-! ### Its route -/

/-- The route that is bound to the handler of the operation serves it. -/
theorem serves_bound (named : operation.identifier.isTruthy = true) {name label : String}
    (spelled : operation.identifier.spelled = .ok name) (found : handlers.find? (handlerName name) = some label)
    {schema : Entries} (hasSchema : HasSchema settings operation schema) :
    Serves settings handlers operation (operation.bound name label schema) where
  path := rfl
  method := operation.verb.method_eq_upper
  url := rfl
  named := named
  operationId := spelled
  handlerName := rfl
  handler := (Handlers.find?_eq_some_iff handlers _ _).mp found
  schema := hasSchema

theorem eq_bound {route : Route} (serves : Serves settings handlers operation route) :
    route = operation.bound route.operationId route.handler route.schema := by
  rw [bound, Verb.method_eq_upper, ← serves.method, ← serves.url, ← serves.path, ← serves.handlerName]

/-- A route comes from a schema, whatever was reported before. -/
theorem run_route_ok_iff {operationId label : String} {events : List Event} {result : Compiled} :
    ((do
      let schema ← operationSchema settings operation.place operation.shared operation.content
      return .route (operation.bound operationId label schema) : Run Compiled).run events).1 = .ok result ↔
      ∃ schema, HasSchema settings operation schema ∧
        result = .route (operation.bound operationId label schema) := by
  have steady := (confined_operationSchema settings operation.place operation.shared operation.content).steady
  simp only [run_bind_ok_iff, steady events, operationSchema_ok_iff]
  refine exists_congr fun schema => and_congr_right fun _ => ?_
  exact ⟨fun same => (Except.ok.inj same).symm, fun same => same ▸ rfl⟩

/-- The steps of compiling an operation that is an object. -/
theorem compiled_eq {entries : Entries} (content : operation.content = .map entries) :
    operation.compiled settings handlers = ((
      if operation.identifier.isTruthy then do
        let name ← Run.ofExcept operation.identifier.spelled
        match handlers.find? (handlerName name) with
        | none => return .missing ⟨operation.path, operation.verb.key, some name, some (handlerName name)⟩
        | some label => do
          let schema ← operationSchema settings operation.place operation.shared operation.content
          return .route (operation.bound name label schema)
      else return .missing ⟨operation.path, operation.verb.key, none, none⟩ : Run Compiled).run
        [.compilingOperation operation.place]).1 := by
  obtain ⟨path, item, verb, _⟩ := operation
  cases content
  rfl

/-- An operation without a handler for its name is missing one. -/
theorem compiled_of_absent {entries : Entries} (content : operation.content = .map entries)
    (named : operation.identifier.isTruthy = true) {name : String} (spelled : operation.identifier.spelled = .ok name)
    (absent : handlers.find? (handlerName name) = none) :
    operation.compiled settings handlers =
      .ok (.missing ⟨operation.path, operation.verb.key, some name, some (handlerName name)⟩) := by
  rw [compiled_eq content, if_pos named, spelled]
  show ((match handlers.find? (handlerName name) with
    | none => _
    | some label => _ : Run Compiled).run _).1 = _
  rw [absent]
  rfl

/-- An operation with a handler is compiled to its schema, bound to the handler. -/
theorem compiled_of_handler {entries : Entries} (content : operation.content = .map entries)
    (named : operation.identifier.isTruthy = true) {name label : String}
    (spelled : operation.identifier.spelled = .ok name) (found : handlers.find? (handlerName name) = some label) :
    operation.compiled settings handlers =
      (operationSchema settings operation.place operation.shared operation.content).outcome.1 >>= fun schema =>
        pure (.route (operation.bound name label schema)) := by
  have steady := (confined_operationSchema settings operation.place operation.shared operation.content).steady
  have bound : (operationSchema settings operation.place operation.shared operation.content >>= fun schema =>
      pure (Compiled.route (operation.bound name label schema))).Steady :=
    steady.bind fun _ => .pure _
  rw [compiled_eq content, if_pos named, spelled]
  show ((match handlers.find? (handlerName name) with
    | none => _
    | some label => _ : Run Compiled).run _).1 = _
  rw [found]
  exact (bound _).trans (Run.outcome_bind _ fun _ => .pure _)

/-- An operation that is no object is not compiled. -/
theorem isObject_of_compiled {result : Compiled}
    (compiles : operation.compiled settings handlers = .ok result) :
    ∃ entries, operation.content = .map entries := by
  unfold compiled compileOperation at compiles
  split at compiles
  · rename_i entries content
    exact ⟨entries, content⟩
  · cases compiles

/-- **What an operation is compiled to.** It must be an object. -/
theorem compiled_eq_ok_iff {result : Compiled} :
    operation.compiled settings handlers = .ok result ↔
      (∃ entries, operation.content = .map entries) ∧ Becomes settings handlers operation result := by
  suffices becomes : ∀ entries, operation.content = .map entries →
      (operation.compiled settings handlers = .ok result ↔ Becomes settings handlers operation result) by
    constructor
    · intro compiles
      obtain ⟨entries, content⟩ := isObject_of_compiled compiles
      exact ⟨⟨entries, content⟩, (becomes entries content).mp compiles⟩
    · rintro ⟨⟨entries, content⟩, further⟩
      exact (becomes entries content).mpr further
  intro entries content
  rw [compiled_eq content]
  split
  · rename_i named
    rw [run_bind_ok_iff]
    constructor
    · rintro ⟨name, spelled, later⟩
      split at later
      · rename_i absent
        cases later
        exact .missing ((lack?_of_named named).mpr ⟨name, spelled, absent, rfl⟩)
      · rename_i label found
        obtain ⟨schema, hasSchema, rfl⟩ := run_route_ok_iff.mp later
        exact .served (serves_bound named spelled found hasSchema)
    · intro becomes
      cases becomes with
      | served serves =>
        refine ⟨_, serves.operationId, ?_⟩
        have found := (Handlers.find?_eq_some_iff handlers _ _).mpr serves.handler
        rw [serves.handlerName] at found
        simp only [found]
        exact run_route_ok_iff.mpr ⟨_, serves.schema, congrArg Compiled.route (eq_bound serves)⟩
      | missing lacks =>
        obtain ⟨name, spelled, absent, rfl⟩ := (lack?_of_named named).mp lacks
        refine ⟨name, spelled, ?_⟩
        simp only [absent]
        rfl
  · rename_i unnamed
    constructor
    · intro same
      cases same
      exact .missing (if_neg unnamed)
    · intro becomes
      cases becomes with
      | served serves => exact absurd serves.named unnamed
      | missing lacks =>
        rw [lack?, if_neg unnamed] at lacks
        cases lacks
        rfl

end Operation

/-! ### Its service -/

theorem Serves.isNameable {route : Route} (serves : Serves settings handlers operation route) :
    operation.IsNameable :=
  fun _ => ⟨route.operationId, serves.operationId⟩

theorem Serves.lack?_eq_none {route : Route} (serves : Serves settings handlers operation route) :
    operation.lack? handlers = none := by
  have found := (Handlers.find?_eq_some_iff handlers _ _).mpr serves.handler
  rw [serves.handlerName] at found
  exact (Operation.lack?_eq_none_iff serves.isNameable).mpr
    ⟨serves.named, route.operationId, route.handler, serves.operationId, found⟩

/-- An operation is served or lacks a handler when its name can be spelled and it is served if it has a
handler. -/
theorem served_or_lacks_iff :
    (operation.lack? handlers = none → ∃ route, Serves settings handlers operation route) ↔
      operation.IsNameable ∧
        (operation.HasHandler handlers → ∃ route, Serves settings handlers operation route) := by
  constructor
  · intro served
    have nameable : operation.IsNameable := by
      intro named
      cases spelled : operation.identifier.spelled with
      | ok name => exact ⟨name, rfl⟩
      | error failure =>
        -- such an operation lacks no handler, so it is served, and its name can be spelled after all
        have noLack : operation.lack? handlers = none := by
          simp only [Operation.lack?, if_pos named, spelled]
        obtain ⟨route, serves⟩ := served noLack
        cases spelled.symm.trans serves.operationId
    exact ⟨nameable, fun has => served ((Operation.lack?_eq_none_iff nameable).mpr has)⟩
  · rintro ⟨nameable, served⟩ noLack
    exact served ((Operation.lack?_eq_none_iff nameable).mp noLack)

end RouteCompiler
