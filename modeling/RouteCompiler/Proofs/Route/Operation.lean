/-
**The schema of an operation.**

An operation stands under a verb in the path item of a template. Its schema is put together from three parts:
the schemas of its parameters by part of the request, that of its request, and those of its answers. Parts of
a request have names of their own, none of which is `body` or `response`, so no part takes the place of
another and the order of the keys is that of the parts.

* `Verb.method_eq_upper`, `Verb.ofKey?_eq_some_iff`: verbs and their keys;
* `parameterSchemas_keys`, `requestBody_atMostOne`, `responses_atMostOne`: the keys of the parts;
* `Operation`: an operation where it stands;
* `HasSchema`: the schema that the parts of an operation make;
* `operationSchema_ok_iff`: compiling an operation gives its schema.
-/

import Mathlib.Data.List.Nodup
import RouteCompiler.Proofs.Route.Declaration
import RouteCompiler.Proofs.Route.Fault

namespace RouteCompiler

/-! ### Verbs -/

theorem Verb.method_eq_upper (verb : Verb) : verb.method = Text.upper verb.key := by
  cases verb <;> decide +kernel

theorem Verb.method_injective : Function.Injective Verb.method := by
  intro first second same
  cases first <;> cases second <;> simp_all [method]

theorem Verb.ofKey?_eq_some_iff {key : Scalar} {verb : Verb} :
    ofKey? key = some verb ↔ key = .str verb.key := by
  constructor
  · intro found
    simpa using List.find?_some found
  · rintro rfl
    cases verb <;> rfl

/-! ### Parts of a schema -/

theorem RequestPart.key_injective : Function.Injective RequestPart.key := by
  intro first second same
  cases first <;> cases second <;> simp_all [key]

/-- The schemas of parameters have keys of their own, each that of a part of the request. -/
theorem parameterSchemas_keys {derive : Bool} {declared : List Tree} {schemas : Entries}
    (made : parameterSchemas derive declared = .ok schemas) :
    OrderedMap.Distinct schemas ∧
      ∀ key ∈ OrderedMap.keys schemas, ∃ part : RequestPart, key = .str part.key := by
  obtain ⟨parameters, _, same⟩ := bind_ok_iff.mp made
  cases same
  rw [OrderedMap.Distinct, keys_schemasOf]
  constructor
  · refine (nodup_eraseDups _).map fun first second same => ?_
    exact RequestPart.key_injective (Scalar.str.inj same)
  · intro key member
    obtain ⟨part, _, rfl⟩ := List.mem_map.mp member
    exact ⟨part, rfl⟩

/-- There is no entry, or a single one under a key. -/
def AtMostOne (key : Scalar) (entries : Entries) : Prop :=
  entries = [] ∨ ∃ value, entries = [(key, value)]

theorem merge_atMostOne {base entries : Entries} {key : Scalar} (distinct : OrderedMap.Distinct base)
    (fresh : key ∉ OrderedMap.keys base) (single : AtMostOne key entries) :
    OrderedMap.merge base entries = base ++ entries ∧ OrderedMap.Distinct (base ++ entries) := by
  rcases single with rfl | ⟨value, rfl⟩
  · simpa using distinct
  · have appended : OrderedMap.merge base [(key, value)] = base ++ [(key, value)] :=
      OrderedMap.merge_eq_append (by simp [OrderedMap.Distinct]) (by simpa using fresh)
    exact ⟨appended, appended ▸ OrderedMap.distinct_merge distinct _⟩

theorem requestBody_atMostOne {settings : Settings} {location : Location} {body : Tree} {schema : Entries}
    (made : (requestBody settings location body).outcome.1 = .ok schema) : AtMostOne "body" schema := by
  unfold requestBody at made
  split at made
  · cases made
    exact Or.inl rfl
  · rw [Run.outcome_bind _ fun _ => .pure _] at made
    obtain ⟨filtered, _, same⟩ := bind_ok_iff.mp made
    cases same
    exact Or.inr ⟨filtered, rfl⟩

theorem responses_atMostOne {settings : Settings} {location : Location} {answers : Tree} {schemas : Entries}
    (made : (responses settings location answers).outcome.1 = .ok schemas) : AtMostOne "response" schemas := by
  unfold responses at made
  split at made
  · split at made
    · rw [Run.outcome_bind _ fun _ => .pure _] at made
      obtain ⟨collected, _, same⟩ := bind_ok_iff.mp made
      cases same
      split
      · exact Or.inl rfl
      · exact Or.inr ⟨_, rfl⟩
    · cases made
  · cases made
    exact Or.inl rfl

/-- Parameters, request and answers are put one after the other. -/
theorem merge_parts {settings : Settings} {derive : Bool} {declared : List Tree}
    {parameters body answers : Entries}
    {atBody atAnswers : Location} {bodyTree answersTree : Tree}
    (ofParameters : parameterSchemas derive declared = .ok parameters)
    (ofBody : (requestBody settings atBody bodyTree).outcome.1 = .ok body)
    (ofAnswers : (responses settings atAnswers answersTree).outcome.1 = .ok answers) :
    OrderedMap.merge (OrderedMap.merge parameters body) answers = parameters ++ body ++ answers ∧
      OrderedMap.Distinct (parameters ++ body ++ answers) := by
  obtain ⟨distinct, ofPart⟩ := parameterSchemas_keys ofParameters
  have other {key : String} (noPart : ∀ part : RequestPart, key ≠ part.key) :
      Scalar.str key ∉ OrderedMap.keys parameters := by
    intro member
    obtain ⟨part, same⟩ := ofPart _ member
    exact noPart part (Scalar.str.inj same)
  have single := requestBody_atMostOne ofBody
  obtain ⟨withBody, distinctBody⟩ :=
    merge_atMostOne distinct (other fun part => by cases part <;> decide) single
  have fresh : Scalar.str "response" ∉ OrderedMap.keys (parameters ++ body) := by
    rw [OrderedMap.keys_append, List.mem_append, not_or]
    refine ⟨other fun part => by cases part <;> decide, ?_⟩
    rcases single with rfl | ⟨value, rfl⟩
    · exact List.not_mem_nil
    · simp
  rw [withBody]
  exact merge_atMostOne distinctBody fresh (responses_atMostOne ofAnswers)

/-! ### Operations -/

/-- An operation where it stands in a document: under a verb in the path item of a template. -/
structure Operation where
  path : String
  item : Entries
  verb : Verb
  content : Tree

namespace Operation

/-- The place that failures of the operation name. -/
def place (operation : Operation) : String :=
  operation.verb.place operation.path

/-- The name that the document gives the operation. -/
def identifier (operation : Operation) : Tree :=
  operation.content.field "operationId"

/-- The parameters that the operation shares with the others of its path. -/
def shared (operation : Operation) : Tree :=
  (Tree.map operation.item).field "parameters"

end Operation

/-- The parts of the schema of an operation: the schemas of its parameters followed by those of its path, that
of its request and those of its answers. -/
structure HasParts (settings : Settings) (operation : Operation) (parameters body answers : Entries) :
    Prop where
  parameters : ∃ declared,
    operationParameters (operation.content.field "parameters") operation.shared = .ok declared ∧
      parameterSchemas settings.deriveRequired declared = .ok parameters
  body : (requestBody settings (.str operation.place)
    (operation.content.field "requestBody")).outcome.1 = .ok body
  answers : (responses settings (.str operation.place)
    (operation.content.field "responses")).outcome.1 = .ok answers

/-- The schema of an operation: its parts one after the other, a request under `body` and answers under
`response`. No part has a key of another one. -/
structure HasSchema (settings : Settings) (operation : Operation) (schema : Entries) : Prop where
  parts : ∃ parameters body answers, HasParts settings operation parameters body answers ∧
    AtMostOne "body" body ∧ AtMostOne "response" answers ∧ schema = parameters ++ body ++ answers
  distinct : OrderedMap.Distinct schema

/-! ### Compiling a schema -/

theorem operationParameterSchemas_ok_iff {settings : Settings} {place : String} {own shared : Tree}
    {schemas : Entries} :
    operationParameterSchemas settings place own shared = .ok schemas ↔
      ∃ declared, operationParameters own shared = .ok declared ∧
        parameterSchemas settings.deriveRequired declared = .ok schemas := by
  rw [operationParameterSchemas, bind_ok_iff]
  refine exists_congr fun declared => and_congr_right fun _ => ?_
  cases parameterSchemas settings.deriveRequired declared with
  | ok made => rfl
  | error failure => exact ⟨nofun, nofun⟩

theorem operationSchema_outcome (settings : Settings) (place : String) (shared operation : Tree) :
    (operationSchema settings place shared operation).outcome.1 = do
      let parameters ← operationParameterSchemas settings place (operation.field "parameters") shared
      let body ← (requestBody settings (.str place) (operation.field "requestBody")).outcome.1
      let answers ← (responses settings (.str place) (operation.field "responses")).outcome.1
      return OrderedMap.merge (OrderedMap.merge parameters body) answers := by
  have atAnswers := (confined_responses settings (.str place) (operation.field "responses")).steady
  have atBody := (confined_requestBody settings (.str place) (operation.field "requestBody")).steady
  unfold operationSchema
  rw [Run.outcome_bind _ fun parameters => atBody.bind fun _ => atAnswers.bind fun _ => .pure _]
  refine congrArg (Except.bind _) (funext fun parameters => ?_)
  rw [Run.outcome_bind _ fun _ => atAnswers.bind fun _ => .pure _]
  refine congrArg (Except.bind _) (funext fun body => ?_)
  rw [Run.outcome_bind _ fun _ => .pure _]
  rfl

/-- **An operation is compiled to its schema**, and to nothing if it has none. -/
theorem operationSchema_ok_iff {settings : Settings} {operation : Operation} {schema : Entries} :
    (operationSchema settings operation.place operation.shared operation.content).outcome.1 = .ok schema ↔
      HasSchema settings operation schema := by
  rw [operationSchema_outcome, bind_ok_iff]
  constructor
  · rintro ⟨parameters, atParameters, later⟩
    obtain ⟨declared, declares, ofParameters⟩ := operationParameterSchemas_ok_iff.mp atParameters
    obtain ⟨body, ofBody, last⟩ := bind_ok_iff.mp later
    obtain ⟨answers, ofAnswers, same⟩ := bind_ok_iff.mp last
    obtain ⟨merged, distinct⟩ := merge_parts ofParameters ofBody ofAnswers
    cases same
    rw [merged]
    refine ⟨⟨parameters, body, answers, ⟨⟨declared, declares, ofParameters⟩, ofBody, ofAnswers⟩, ?_⟩, distinct⟩
    exact ⟨requestBody_atMostOne ofBody, responses_atMostOne ofAnswers, rfl⟩
  · rintro ⟨⟨parameters, body, answers, ⟨⟨declared, declares, ofParameters⟩, ofBody, ofAnswers⟩, _, _, rfl⟩, _⟩
    obtain ⟨merged, _⟩ := merge_parts ofParameters ofBody ofAnswers
    refine ⟨parameters, operationParameterSchemas_ok_iff.mpr ⟨declared, declares, ofParameters⟩, ?_⟩
    refine bind_ok_iff.mpr ⟨body, ofBody, bind_ok_iff.mpr ⟨answers, ofAnswers, ?_⟩⟩
    rw [merged]
    rfl

end RouteCompiler
