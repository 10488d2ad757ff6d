/-
**Lenient settings.**

A schema that should have properties and has none is refused by strict settings; lenient settings pass it on as it
is. That is the only place where the choice is asked for. So whatever strict settings accept is accepted by lenient
ones, with the same schemas, and whatever else is wrong with a document is found by both.

* `Failure.LacksProperties`: the one failure of strict settings that lenient ones do not have;
* `parallel_filterSchema`, `parallel_operationSchema`: a schema, and those of an operation;
* `lenient_of_strict`: a document under strict and lenient settings.
-/

import RouteCompiler.Proofs.Route.Coverage
import RouteCompiler.Proofs.Route.Variation

namespace RouteCompiler

/-- A schema is refused because it has no properties. -/
def Failure.LacksProperties (failure : Failure) : Prop :=
  ∃ location, failure = .malformed .withoutProperties location

/-! ### Schemas -/

namespace Schema
variable (flag : Flag) (location : Location)

/-- Strict and lenient settings differ on a level that should have properties and has none. -/
theorem parallel_filterTarget (below : Nat) (target : Entries) :
    Run.Parallel Failure.LacksProperties Eq (filterTarget flag below true location target)
      (filterTarget flag below false location target) := by
  unfold filterTarget
  split
  · exact (Run.Steady.ofExcept _).parallel
  · refine .bind_eq (Run.Steady.ofExcept _).parallel fun unstructured => ?_
    split
    · exact .pure rfl
    · rw [if_pos rfl]
      exact .excuse ⟨location, rfl⟩ _

theorem parallel_onTarget {change other : Entries → Run Entries} (schema : Entries)
    (changes : ∀ target, Run.Parallel Failure.LacksProperties Eq (change target) (other target)) :
    Run.Parallel Failure.LacksProperties Eq (onTarget location schema change) (onTarget location schema other) := by
  unfold onTarget
  split
  · split
    · exact .bind_eq (changes _) fun items => .pure rfl
    · exact .throw _
  · exact changes schema

theorem parallel_filterSchema (depth : Option Int) (schema : Tree) :
    Run.Parallel Failure.LacksProperties Eq (filterSchema flag depth true location schema)
      (filterSchema flag depth false location schema) := by
  unfold filterSchema
  split
  · split
    · refine .bind_eq (confined_checkDepth depth).steady.parallel fun _ => .bind_eq ?_ fun filtered => .pure rfl
      exact parallel_onTarget location _ fun target => parallel_filterTarget flag location _ target
    · exact .throw _
  · exact .pure rfl

/-- A schema without properties that only lenient settings pass on. -/
example :
    (filterSchema .readOnly none true "body" (.map [("type", .str "object")])).outcome.1 =
        .error (.malformed .withoutProperties "body") ∧
      (filterSchema .readOnly none false "body" (.map [("type", .str "object")])).outcome.1 =
        .ok (.map [("type", .str "object")]) := by
  decide +kernel

end Schema

/-! ### Operations -/

variable (settings : Settings)

theorem parallel_requestBody (location : Location) (body : Tree) :
    Run.Parallel Failure.LacksProperties Eq (requestBody { settings with strictSchemas := true } location body)
      (requestBody { settings with strictSchemas := false } location body) := by
  unfold requestBody
  dsimp only
  split
  · exact .pure rfl
  · exact .bind_eq (Schema.parallel_filterSchema _ _ _ _) fun filtered => .pure rfl

theorem parallel_responseSchema (location : Location) (status : Scalar) (response : Tree) :
    Run.Parallel Failure.LacksProperties Eq
      (responseSchema { settings with strictSchemas := true } location status response)
      (responseSchema { settings with strictSchemas := false } location status response) := by
  unfold responseSchema
  dsimp only
  split
  · exact .pure rfl
  · refine .bind_eq (Run.Steady.ofExcept _).parallel fun text => ?_
    exact .bind_eq (Schema.parallel_filterSchema _ _ _ _) fun filtered => .pure rfl

theorem parallel_collectResponses (location : Location) (collected entries : Entries) :
    Run.Parallel Failure.LacksProperties Eq
      (collectResponses { settings with strictSchemas := true } location collected entries)
      (collectResponses { settings with strictSchemas := false } location collected entries) := by
  induction entries generalizing collected with
  | nil => exact .pure rfl
  | cons entry rest ih =>
    obtain ⟨status, response⟩ := entry
    refine .bind_eq (parallel_responseSchema settings location status response) fun schema? => ?_
    cases schema? with
    | none => exact ih collected
    | some schema => exact ih _

theorem parallel_responses (location : Location) (answers : Tree) :
    Run.Parallel Failure.LacksProperties Eq (responses { settings with strictSchemas := true } location answers)
      (responses { settings with strictSchemas := false } location answers) := by
  unfold responses
  split
  · split
    · exact .bind_eq (parallel_collectResponses settings location [] _) fun collected => .pure rfl
    · exact .throw _
  · exact .pure rfl

theorem parallel_operationSchema (place : String) (shared operation : Tree) :
    Run.Parallel Failure.LacksProperties Eq
      (operationSchema { settings with strictSchemas := true } place shared operation)
      (operationSchema { settings with strictSchemas := false } place shared operation) := by
  unfold operationSchema
  refine .bind_eq (Run.Steady.ofExcept _).parallel fun parameters => ?_
  refine .bind_eq (parallel_requestBody settings _ _) fun body => ?_
  exact .bind_eq (parallel_responses settings _ _) fun answers => .pure rfl

/-! ### Documents -/

/-- **Lenient settings accept whatever strict ones accept**, with the same routes. Missing handlers are the same
under both, and so is every failure of strict settings but that a schema has no properties. -/
theorem lenient_of_strict (settings : Settings) (handlers : Handlers) (document : Tree) :
    (∀ routes,
      (compileDocument { settings with strictSchemas := true } handlers document).outcome.1 = .ok routes →
      (compileDocument { settings with strictSchemas := false } handlers document).outcome.1 = .ok routes) ∧
    (∀ missing,
      (compileDocument { settings with strictSchemas := true } handlers document).outcome.1 =
        .error (.missing missing) →
      (compileDocument { settings with strictSchemas := false } handlers document).outcome.1 =
        .error (.missing missing)) ∧
    ∀ failure, ¬ failure.LacksProperties →
      (compileDocument { settings with strictSchemas := true } handlers document).outcome.1 = .error failure →
      (compileDocument { settings with strictSchemas := false } handlers document).outcome.1 = .error failure := by
  have parallel := (parallel_compileDocument (parallel_operationSchema settings) handlers document).outcome
  have sameFailure (failure : Failure) (other : ¬ failure.LacksProperties)
      (failed : (compileDocument { settings with strictSchemas := true } handlers document).outcome.1 =
        .error failure) :
      (compileDocument { settings with strictSchemas := false } handlers document).outcome.1 = .error failure := by
    rw [failed] at parallel
    exact parallel.eq_error other
  refine ⟨fun routes compiles => ?_, fun missing => sameFailure _ nofun, sameFailure⟩
  rw [compiles] at parallel
  obtain ⟨others, compilesOther, alike⟩ := parallel.exists_partner
  have same : routes = others := by
    rw [← List.forall₂_eq_eq_eq]
    exact alike.imp fun _ _ alike => alike.eq
  rw [same, compilesOther]

theorem lenient_of_usersDocument :
    (∃ routes,
      (compileDocument { Settings.default with strictSchemas := true } usersHandlers usersDocument).outcome.1 =
        .ok routes ∧
      (compileDocument { Settings.default with strictSchemas := false } usersHandlers usersDocument).outcome.1 =
        .ok routes) ∧
    ∃ missing, missing.length = 3 ∧
      (compileDocument { Settings.default with strictSchemas := true } [] usersDocument).outcome.1 =
        .error (.missing missing) ∧
      (compileDocument { Settings.default with strictSchemas := false } [] usersDocument).outcome.1 =
        .error (.missing missing) := by
  have served : (compileDocument { Settings.default with strictSchemas := true } usersHandlers
      usersDocument).outcome.1.map List.length = .ok 3 := by
    decide +kernel
  have refused : (compileDocument { Settings.default with strictSchemas := true } []
      usersDocument).outcome.1.map List.length = .error (.missing [
        ⟨"/users/\x7bid\x7d", "put", some "PutUser", some "putUser"⟩,
        ⟨"/users/\x7bid\x7d", "get", some "GetUser", some "getUser"⟩,
        ⟨"/health", "get", some "Health", some "health"⟩]) := by
    decide +kernel
  obtain ⟨routes, compiles, _⟩ := map_ok_iff.mp served
  have fails := map_error_iff.mp refused
  exact ⟨⟨routes, compiles, (lenient_of_strict .default usersHandlers usersDocument).1 routes compiles⟩,
    _, rfl, fails, (lenient_of_strict .default [] usersDocument).2.1 _ fails⟩

end RouteCompiler
