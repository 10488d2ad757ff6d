/-
**Required names of parameters.**

Settings may ask for the required names of parameters to be listed. Then the schema of a part of the request gets
one key more, the last one, if any parameter of the part is required; a part of the path has it always, since all
parameters there are required. Nothing else in a route depends on the choice, and neither does what can be wrong
with a document.

* `AddsRequired`: the schema of a part without and with its required names;
* `ParameterGroup.Sound.addsRequired`: the two schemas of a group of parameters;
* `Derives`: an entry of the schema of an operation without and with required names;
* `derives_operationSchema`: the schemas of an operation without and with required names;
* `derived_of_plain`: a document without and with required names.
-/

import RouteCompiler.Proofs.Route.Group
import RouteCompiler.Proofs.Route.Operation
import RouteCompiler.Proofs.Route.Variation
import RouteCompiler.Proofs.Tree.Matched

namespace RouteCompiler

/-! ### Parts -/

/-- What asking for required names does to the schema of a part of the request: nothing, or it adds the names of
some of its properties as the last key. For the path it adds those of all. -/
inductive AddsRequired (part : RequestPart) : Tree → Tree → Prop
  /-- No name is required. -/
  | nothing (other : part ≠ .path) (schema : Tree) : AddsRequired part schema schema
  /-- Some names are required. -/
  | names {fields properties : Entries} {names : List String}
      (hasProperties : OrderedMap.get? fields "properties" = some (.map properties))
      (fresh : Scalar.str "required" ∉ OrderedMap.keys fields) (some : names ≠ []) (nodup : names.Nodup)
      (declared : ∀ name ∈ names, Scalar.str name ∈ OrderedMap.keys properties)
      (ofPath : part = .path → ∀ key ∈ OrderedMap.keys properties, ∃ name ∈ names, key = .str name) :
      AddsRequired part (.map fields) (.map (fields ++ [(.str "required", .list (names.map .str))]))

/-- The names of parameters are the keys under which their schemas stand. -/
theorem mem_keys_properties {properties : List (String × Tree)} {key : Scalar} :
    key ∈ OrderedMap.keys (properties.map fun property => (Scalar.str property.1, property.2)) ↔
      ∃ name ∈ OrderedMap.keys properties, key = .str name := by
  simp [OrderedMap.keys, eq_comm]

/-- **The schemas of a group of parameters.** -/
theorem ParameterGroup.Sound.addsRequired {part : RequestPart} {group : ParameterGroup} (sound : group.Sound part)
    (some : group.properties ≠ []) : AddsRequired part (group.schema false) (group.schema true) := by
  by_cases none : group.required = []
  · have other : part ≠ .path := by
      intro isPath
      obtain ⟨property, member⟩ := List.exists_mem_of_ne_nil _ some
      have required := sound.ofPath isPath property.1 (List.mem_map_of_mem member)
      rw [none] at required
      cases required
    have same : group.schema true = group.schema false := by simp [schema, none]
    rw [same]
    exact .nothing other _
  · have added : group.schema true = .map (wrapObject
        (group.properties.map fun property => (.str property.1, property.2)) [] ++
        [(.str "required", .list (group.required.map .str))]) := by
      have notEmpty : (group.required.map Tree.str).isEmpty = false := by simpa using none
      rw [schema, wrapObject, if_pos rfl, notEmpty]
      rfl
    rw [added]
    refine .names rfl (by simp [wrapObject]) none sound.nodup ?_ ?_
    · exact fun name member => mem_keys_properties.mpr ⟨name, sound.declared name member, rfl⟩
    · rintro isPath key member
      obtain ⟨name, declared, same⟩ := mem_keys_properties.mp member
      exact ⟨name, sound.ofPath isPath name declared, same⟩

/-- A part with an optional and a required parameter. -/
example :
    (ParameterGroup.mk [("page", .map []), ("token", .map [])] ["token"]).schema true = .map [
      ("type", .str "object"), ("properties", .map [("page", .map []), ("token", .map [])]),
      ("required", .list [.str "token"])] :=
  rfl

/-! ### Operations -/

/-- What asking for required names does to an entry of the schema of an operation. -/
inductive Derives : Scalar × Tree → Scalar × Tree → Prop
  /-- The schema of a part may get required names. -/
  | part {part : RequestPart} {plain derived : Tree} (adds : AddsRequired part plain derived) :
    Derives (.str part.key, plain) (.str part.key, derived)
  /-- A request and the answers stay as they are. -/
  | rest {key : String} (isRest : key = "body" ∨ key = "response") (schema : Tree) :
    Derives (.str key, schema) (.str key, schema)

theorem derives_schemasOf {parameters : List Parameter}
    (required : ∀ parameter ∈ parameters, parameter.part = .path → parameter.isRequired = true) :
    List.Forall₂ Derives (schemasOf false parameters) (schemasOf true parameters) := by
  rw [schemasOf, schemasOf, List.forall₂_map_left_iff, List.forall₂_map_right_iff]
  refine List.forall₂_same.mpr fun group member => ?_
  obtain ⟨sound, some⟩ := sound_groupParameters required group member
  exact .part (sound.addsRequired some)

theorem derives_of_atMostOne {key : String} {entries : Entries} (isRest : key = "body" ∨ key = "response")
    (single : AtMostOne (.str key) entries) : List.Forall₂ Derives entries entries := by
  rcases single with rfl | ⟨schema, rfl⟩
  · exact .nil
  · exact .cons (.rest isRest schema) .nil

theorem parallel_parameterSchemas (declared : List Tree) :
    Parallel (fun _ => False)
      (fun plain derived => parameterSchemas false declared = .ok plain ∧
        parameterSchemas true declared = .ok derived ∧ List.Forall₂ Derives plain derived)
      (parameterSchemas false declared) (parameterSchemas true declared) := by
  cases outcome : declared.mapM Parameter.ofTree with
  | error failure =>
    rw [parameterSchemas, parameterSchemas, outcome]
    exact .same failure
  | ok parameters =>
    have made (derive : Bool) : parameterSchemas derive declared = .ok (schemasOf derive parameters) := by
      rw [parameterSchemas, outcome]
      rfl
    rw [made, made]
    refine .values ⟨rfl, rfl, derives_schemasOf fun parameter member => ?_⟩
    obtain ⟨_, _, declares⟩ := exists_left_of_mem (mapM_ok_iff.mp outcome) member
    exact Parameter.isRequired_of_path declares

variable (settings : Settings)

theorem parallel_operationParameterSchemas (place : String) (own shared : Tree) :
    Parallel (fun _ => False)
      (fun plain derived => ∃ declared, parameterSchemas false declared = .ok plain ∧
        parameterSchemas true declared = .ok derived ∧ List.Forall₂ Derives plain derived)
      (operationParameterSchemas { settings with deriveRequired := false } place own shared)
      (operationParameterSchemas { settings with deriveRequired := true } place own shared) := by
  unfold operationParameterSchemas
  have declarations : Parallel (fun _ => False) Eq (operationParameters own shared)
      (operationParameters own shared) :=
    .refl fun _ _ => rfl
  refine declarations.bind ?_
  rintro declared _ rfl
  refine .mapError _ ?_ fun _ => id
  exact (parallel_parameterSchemas declared).imp fun _ _ made => ⟨declared, made⟩

/-- The answers of an operation have nothing to do with required names. -/
theorem responses_deriveRequired (derive : Bool) (location : Location) (answers : Tree) :
    responses { settings with deriveRequired := derive } location answers = responses settings location answers := by
  have collect (collected entries : Entries) :
      collectResponses { settings with deriveRequired := derive } location collected entries =
        collectResponses settings location collected entries := by
    induction entries generalizing collected with
    | nil => rfl
    | cons entry rest ih =>
      rw [collectResponses, collectResponses]
      simp only [ih]
      rfl
  unfold responses
  simp only [collect]

theorem derives_operationSchema (place : String) (shared operation : Tree) :
    Run.Parallel (fun _ => False) (List.Forall₂ Derives)
      (operationSchema { settings with deriveRequired := false } place shared operation)
      (operationSchema { settings with deriveRequired := true } place shared operation) := by
  unfold operationSchema
  refine .bind (.ofExcept (parallel_operationParameterSchemas settings _ _ _)) ?_
  rintro plain derived ⟨declared, made, madeDerived, derives⟩
  refine .bind (confined_requestBody settings _ _).steady.parallel_outcome ?_
  rintro body _ ⟨rfl, ofBody⟩
  rw [responses_deriveRequired settings false, responses_deriveRequired settings true]
  refine .bind (confined_responses settings _ _).steady.parallel_outcome ?_
  rintro answers _ ⟨rfl, ofAnswers⟩
  rw [(merge_parts made ofBody ofAnswers).1, (merge_parts madeDerived ofBody ofAnswers).1]
  have ofRequest := derives_of_atMostOne (Or.inl rfl) (requestBody_atMostOne ofBody)
  have ofAnswer := derives_of_atMostOne (Or.inr rfl) (responses_atMostOne ofAnswers)
  exact .pure (List.rel_append (List.rel_append derives ofRequest) ofAnswer)

/-! ### Documents -/

/-- **Asking for required names adds them to the parts of requests**, and changes nothing else: a document is
compiled with and without them, to the same number of routes, or refused for the same reason. -/
theorem derived_of_plain (settings : Settings) (handlers : Handlers) (document : Tree) :
    (∃ failure,
      (compileDocument { settings with deriveRequired := false } handlers document).outcome.1 = .error failure ∧
      (compileDocument { settings with deriveRequired := true } handlers document).outcome.1 = .error failure) ∨
    ∃ plain derived,
      (compileDocument { settings with deriveRequired := false } handlers document).outcome.1 = .ok plain ∧
      (compileDocument { settings with deriveRequired := true } handlers document).outcome.1 = .ok derived ∧
      List.Forall₂ (Route.Alike (List.Forall₂ Derives)) plain derived := by
  have parallel := (parallel_compileDocument (derives_operationSchema settings) handlers document).outcome
  generalize (compileDocument { settings with deriveRequired := false } handlers document).outcome.1 = plain
    at parallel
  generalize (compileDocument { settings with deriveRequired := true } handlers document).outcome.1 = derived
    at parallel
  cases parallel with
  | values alike => exact Or.inr ⟨_, _, rfl, rfl, alike⟩
  | same failure => exact Or.inl ⟨failure, rfl, rfl⟩
  | excuse excuses => exact excuses.elim

end RouteCompiler
