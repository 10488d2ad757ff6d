/-
**Documents that the compiler stumbles over.**

Compiling asks of most parts of an operation whether they have their shape. It goes through parameters and answers
that are given without asking whether they can be gone through, writes names and places without asking whether they
can be spelled, and hands schemas to a filter that may stumble itself. The first stop of a document where this
happens ends the compilation in a way of its own. In a document whose keys are texts, as in every one that is JSON,
nothing else does, but for components that are no object. All other documents are compiled, or refused with one of
the failures of the compiler.

* `ParameterStumbles`, `DeclarationsStumble`: parameters;
* `AnswersStumble`: answers;
* `OperationStumbles`, `Operation.stumbles_compiled_iff`: operations;
* `Stop.stumbles_result_iff`, `stumbles_compileResolved_iff`: the stops of a document;
* `DocumentStumbles`, `stumbles_compileDocument_iff`: documents;
* `own_failures_iff`: the documents that are compiled, or refused with a failure of the compiler.
-/

import RouteCompiler.Proofs.Reference.Endless
import RouteCompiler.Proofs.Reference.Stumble
import RouteCompiler.Proofs.Route.Declaration
import RouteCompiler.Proofs.Route.FirstFault
import RouteCompiler.Proofs.Route.SelfContained
import RouteCompiler.Proofs.Schema.Stumble

namespace RouteCompiler

variable {settings : Settings} {handlers : Handlers}

/-! ### Parameters -/

/-- A parameter that has a name and a value for the part of the request that cannot be spelled. -/
inductive ParameterStumbles : Tree → Prop
  /-- The value is none of the parts, and it holds a number of too many digits. -/
  | part {entries : Entries} {name : String} {value : Tree}
      (named : OrderedMap.get? entries "name" = some (.str name)) (notEmpty : name.isEmpty = false)
      (given : OrderedMap.get? entries "in" = some value) (unspellable : value.isSpellable = false) :
      ParameterStumbles (.map entries)

/-- Parameters of an operation and of its path that cannot be gone through. -/
inductive DeclarationsStumble (own shared : Tree) : Prop
  /-- Those of the operation are given and cannot be iterated over. -/
  | own (given : own.isTruthy = true) (noElements : own.elements? = none)
  /-- Those of the path are given and cannot be iterated over. -/
  | shared (given : shared.isTruthy = true) (noElements : shared.elements? = none)
  /-- One of them cannot be read, and those before it can. -/
  | parameter {before after : List Tree} {parameter : Tree}
      (declared : operationParameters own shared = .ok (before ++ parameter :: after))
      (earlier : ∀ other ∈ before, ∃ result, Parameter.ofTree other = .ok result)
      (stumbles : ParameterStumbles parameter)

theorem stumbles_declarations_iff {parameters : Tree} :
    Stumbles (declarations parameters) ↔ parameters.isTruthy = true ∧ parameters.elements? = none := by
  unfold declarations
  split
  · rename_i given
    split
    · rename_i elements found
      exact iff_of_false (Stumbles.not_ok _) fun none => nomatch none.2.symm.trans found
    · rename_i none
      exact iff_of_true (.unexpected _) ⟨given, none⟩
  · rename_i absent
    exact iff_of_false (Stumbles.not_ok _) fun given => absent given.1

theorem RequestPart.stumbles_ofTree_iff {value : Tree} :
    Stumbles (RequestPart.ofTree value) ↔ value.isSpellable = false := by
  unfold ofTree
  split
  · rename_i part found
    have isText := List.find?_some found
    simp only [decide_eq_true_eq] at isText
    rw [isText]
    exact iff_of_false (Stumbles.not_ok _) nofun
  · exact (Stumbles.bind_iff_left fun _ => Stumbles.not_malformed _ _).trans Tree.stumbles_spelled_iff

theorem Parameter.stumbles_partOf_iff {name : String} {entries : Entries} :
    Stumbles (Parameter.partOf name entries) ↔
      ∃ value, OrderedMap.get? entries "in" = some value ∧ value.isSpellable = false := by
  have ofPart : Stumbles (Parameter.partOf name entries) ↔
      Stumbles (RequestPart.ofTree ((OrderedMap.get? entries "in").getD (.str ""))) := by
    unfold Parameter.partOf
    split
    · rename_i problem location failed
      rw [failed]
      exact iff_of_false (Stumbles.not_malformed _ _) (Stumbles.not_malformed _ _)
    · rfl
  rw [ofPart, RequestPart.stumbles_ofTree_iff]
  cases OrderedMap.get? entries "in" with
  | none =>
    refine iff_of_false Bool.noConfusion ?_
    rintro ⟨_, given, _⟩
    cases given
  | some value => simp only [Option.getD_some, Option.some.injEq, exists_eq_left']

theorem Parameter.stumbles_ofTree_iff {tree : Tree} : Stumbles (Parameter.ofTree tree) ↔ ParameterStumbles tree := by
  cases tree with
  | map entries =>
    have noNameStumbles : ¬ Stumbles (Parameter.nameOf entries) := by
      unfold Parameter.nameOf
      split
      · split
        · exact Stumbles.not_malformed _ _
        · exact Stumbles.not_ok _
      · exact Stumbles.not_malformed _ _
    rw [Parameter.ofTree, Stumbles.bind_iff, or_iff_right noNameStumbles]
    simp only [Stumbles.bind_pure_iff, Parameter.stumbles_partOf_iff, Parameter.nameOf_ok_iff]
    constructor
    · rintro ⟨name, ⟨named, notEmpty⟩, value, given, unspellable⟩
      exact .part named notEmpty given unspellable
    · rintro ⟨named, notEmpty, given, unspellable⟩
      exact ⟨_, ⟨named, notEmpty⟩, _, given, unspellable⟩
  | _ =>
    refine iff_of_false (Stumbles.not_malformed _ _) ?_
    rintro ⟨⟩

/-- **The schemas of parameters** cannot be made when the parameters cannot be gone through. -/
theorem stumbles_operationParameterSchemas_iff {place : String} {own shared : Tree} :
    Stumbles (operationParameterSchemas settings place own shared) ↔ DeclarationsStumble own shared := by
  have atParameters {declared : List Tree} :
      Stumbles ((parameterSchemas settings.deriveRequired declared).mapError (atOperation place)) ↔
        ∃ before parameter after, declared = before ++ parameter :: after ∧
          (∀ other ∈ before, ∃ result, Parameter.ofTree other = .ok result) ∧ ParameterStumbles parameter := by
    have same : Stumbles ((parameterSchemas settings.deriveRequired declared).mapError (atOperation place)) ↔
        Stumbles (parameterSchemas settings.deriveRequired declared) := by
      cases parameterSchemas settings.deriveRequired declared with
      | ok schemas => rfl
      | error failure =>
        cases failure with
        | malformed problem location => exact iff_of_false (Stumbles.not_malformed _ _) (Stumbles.not_malformed _ _)
        | _ => rfl
    rw [same, parameterSchemas, Stumbles.bind_pure_iff, Stumbles.mapM_iff]
    simp only [Parameter.stumbles_ofTree_iff]
  have atDeclarations : Stumbles (operationParameters own shared) ↔
      (own.isTruthy = true ∧ own.elements? = none) ∨ (shared.isTruthy = true ∧ shared.elements? = none) := by
    have ownCases : Stumbles (declarations own) ∨ ∃ declared, declarations own = .ok declared := by
      unfold declarations
      split
      · split
        · exact .inr ⟨_, rfl⟩
        · exact .inl (.unexpected _)
      · exact .inr ⟨_, rfl⟩
    rw [operationParameters, Stumbles.bind_iff]
    simp only [Stumbles.bind_pure_iff, ← stumbles_declarations_iff]
    constructor
    · rintro (ofOwn | ⟨_, _, ofShared⟩)
      · exact .inl ofOwn
      · exact .inr ofShared
    · rintro (ofOwn | ofShared)
      · exact .inl ofOwn
      · exact ownCases.imp_right fun ⟨declared, read⟩ => ⟨declared, read, ofShared⟩
  rw [operationParameterSchemas, Stumbles.bind_iff, atDeclarations]
  simp only [atParameters]
  constructor
  · rintro ((⟨given, noElements⟩ | ⟨given, noElements⟩) |
      ⟨_, declared, before, parameter, after, rfl, earlier, stumbles⟩)
    · exact .own given noElements
    · exact .shared given noElements
    · exact .parameter declared earlier stumbles
  · rintro (⟨given, noElements⟩ | ⟨given, noElements⟩ | ⟨declared, earlier, stumbles⟩)
    · exact .inl (.inl ⟨given, noElements⟩)
    · exact .inl (.inr ⟨given, noElements⟩)
    · exact .inr ⟨_, declared, _, _, _, rfl, earlier, stumbles⟩

/-! ### Bodies -/

theorem isSpellable_placeWithin (location : Location) (part : String) :
    (placeWithin location part).isSpellable = true := by
  unfold placeWithin
  split <;> rfl

/-- The keys of a schema of JSON content are keys of the body or the answer. -/
theorem keyedBy_jsonSchema? {sort : Scalar → Prop} {types : List String} {node schema : Tree}
    (keyed : node.KeyedBy sort) (found : jsonSchema? types node = some schema) : schema.KeyedBy sort := by
  unfold jsonSchema? at found
  split at found
  · rename_i content given
    obtain ⟨media, isFirst, rfl⟩ := Option.map_eq_some_iff.mp found
    obtain ⟨type, ofType⟩ := exists_get?_of_firstMedia? isFirst
    have ofContent : (Tree.map content).KeyedBy sort := by
      cases node with
      | map entries => exact keyed.subset (Tree.maps_subset_of_mem (OrderedMap.mem_of_get?_eq_some given))
      | _ => cases given
    have ofMedia := ofContent.subset (Tree.maps_subset_of_mem (OrderedMap.mem_of_get?_eq_some ofType))
    unfold mediaSchema Tree.orElse
    split
    · exact ofMedia.subset (media.maps_field_subset _)
    · exact Tree.keyedBy_map_iff.mpr nofun
  · cases found

/-- **A request makes the compiler stumble** when its schema makes filtering stumble. -/
theorem stumbles_requestBody_iff {location : Location} {body : Tree} (keys : body.SpellableKeys) :
    Stumbles (requestBody settings location body).outcome.1 ↔
      ∃ schema, jsonSchema? settings.jsonMediaTypes body = some schema ∧
        Schema.SchemaStumbles .readOnly settings.filterDepth (placeWithin location "requestBody") schema := by
  unfold requestBody
  split
  · rename_i none
    exact iff_of_false (Stumbles.not_ok _) fun ⟨_, found, _⟩ => nomatch none.symm.trans found
  · rename_i schema found
    rw [Stumbles.run_bind_pure_iff, Schema.stumbles_filterSchema_iff settings.one_le_filterDepth
      (keyedBy_jsonSchema? keys found) (isSpellable_placeWithin _ _)]
    simp only [found, Option.some.injEq, exists_eq_left']

/-- An answer whose schema makes filtering stumble. -/
def AnswerStumbles (settings : Settings) (location : Location) (entry : Scalar × Tree) : Prop :=
  ∃ schema, jsonSchema? settings.jsonMediaTypes entry.2 = some schema ∧
    Schema.SchemaStumbles .writeOnly settings.filterDepth
      (placeWithin location ("response " ++ entry.1.display)) schema

theorem stumbles_responseSchema_iff {location : Location} {status : Scalar} {response : Tree}
    (spellable : status.isSpellable = true) (keys : response.SpellableKeys) :
    Stumbles (responseSchema settings location status response).outcome.1 ↔
      AnswerStumbles settings location (status, response) := by
  unfold responseSchema AnswerStumbles
  split
  · rename_i none
    exact iff_of_false (Stumbles.not_ok _) fun ⟨_, found, _⟩ => nomatch none.symm.trans found
  · rename_i schema found
    have spelled : status.spelled = .ok status.display := if_pos spellable
    rw [spelled]
    show Stumbles (Schema.filterSchema _ _ _ _ _ >>= fun filtered => pure (some filtered)).outcome.1 ↔ _
    rw [Stumbles.run_bind_pure_iff, Schema.stumbles_filterSchema_iff settings.one_le_filterDepth
      (keyedBy_jsonSchema? keys found) (isSpellable_placeWithin _ _)]
    simp only [found, Option.some.injEq, exists_eq_left']

/-- Answers are gone through one by one. -/
theorem stumbles_collectResponses_iff {location : Location} {collected entries : Entries} :
    Stumbles (collectResponses settings location collected entries).outcome.1 ↔
      Stumbles (entries.mapM fun entry => (responseSchema settings location entry.1 entry.2).outcome.1) := by
  induction entries generalizing collected with
  | nil => exact iff_of_false (Stumbles.not_ok _) (Stumbles.not_ok _)
  | cons entry rest ih =>
    obtain ⟨status, response⟩ := entry
    have steady (others : Entries) := (confined_collectResponses settings location others rest).steady
    rw [collectResponses, List.mapM_cons, Run.outcome_bind]
    · rw [Stumbles.bind_iff, Stumbles.bind_iff]
      refine or_congr_right (exists_congr fun schema? => and_congr_right fun _ => ?_)
      rw [Stumbles.bind_pure_iff]
      cases schema? with
      | none => exact ih
      | some schema => exact ih
    · rintro (_ | schema)
      · exact steady collected
      · exact steady _

/-- Answers that cannot be gone through. -/
inductive AnswersStumble (settings : Settings) (location : Location) : Tree → Prop
  /-- They are given and no object. -/
  | noObject {answers : Tree} (given : answers.isTruthy = true) (noMap : ∀ entries, answers ≠ .map entries) :
      AnswersStumble settings location answers
  /-- The schema of one of them makes filtering stumble, and those before it have their schemas. -/
  | answer {before after : Entries} {entry : Scalar × Tree}
      (earlier : ∀ other ∈ before, ∃ schema?,
        (responseSchema settings location other.1 other.2).outcome.1 = .ok schema?)
      (stumbles : AnswerStumbles settings location entry) :
      AnswersStumble settings location (.map (before ++ entry :: after))

/-- **The answers make the compiler stumble** when they are no object, or when the schema of one of them makes filtering
stumble. -/
theorem stumbles_responses_iff {location : Location} {answers : Tree} (keys : answers.SpellableKeys) :
    Stumbles (responses settings location answers).outcome.1 ↔ AnswersStumble settings location answers := by
  unfold responses
  split
  · rename_i given
    split
    · rename_i entries
      rw [Stumbles.run_bind_pure_iff, stumbles_collectResponses_iff, Stumbles.mapM_iff]
      have step {before after : Entries} {entry : Scalar × Tree} (split : entries = before ++ entry :: after) :
          Stumbles (responseSchema settings location entry.1 entry.2).outcome.1 ↔
            AnswerStumbles settings location entry := by
        have member : entry ∈ entries := split ▸ List.mem_append_right _ List.mem_cons_self
        obtain ⟨spellable, value⟩ := Tree.keyedBy_map_iff.mp keys entry member
        exact stumbles_responseSchema_iff spellable value.keyed
      constructor
      · rintro ⟨before, entry, after, split, earlier, stumbles⟩
        rw [step split] at stumbles
        rw [split]
        exact .answer earlier stumbles
      · rintro (⟨_, noMap⟩ | ⟨earlier, stumbles⟩)
        · exact absurd rfl (noMap entries)
        · exact ⟨_, _, _, rfl, earlier, (step rfl).mpr stumbles⟩
    · rename_i noMap
      exact iff_of_true (.unexpected _) (.noObject given noMap)
  · rename_i absent
    refine iff_of_false (Stumbles.not_ok _) ?_
    rintro (⟨given, _⟩ | _)
    · exact absent given
    · rename_i before after entry _ _
      cases before <;> exact absent rfl

/-! ### Operations -/

/-- Parts of an operation that make the compiler stumble. -/
inductive PartsStumble (settings : Settings) (operation : Operation) : Prop
  /-- Its parameters cannot be gone through. -/
  | parameters (stumble : DeclarationsStumble (operation.content.field "parameters") operation.shared)
  /-- Its parameters have schemas, but the schema of its request makes filtering stumble. -/
  | body {parameters : Entries} {schema : Tree}
      (ofParameters : operationParameterSchemas settings operation.place (operation.content.field "parameters")
        operation.shared = .ok parameters)
      (json : jsonSchema? settings.jsonMediaTypes (operation.content.field "requestBody") = some schema)
      (stumbles : Schema.SchemaStumbles .readOnly settings.filterDepth
        (placeWithin (.str operation.place) "requestBody") schema)
  /-- Its parameters and its request have schemas, but its answers cannot be gone through. -/
  | answers {parameters body : Entries}
      (ofParameters : operationParameterSchemas settings operation.place (operation.content.field "parameters")
        operation.shared = .ok parameters)
      (ofBody : (requestBody settings (.str operation.place)
        (operation.content.field "requestBody")).outcome.1 = .ok body)
      (stumble : AnswersStumble settings (.str operation.place) (operation.content.field "responses"))

/-- An operation that makes the compiler stumble. -/
inductive OperationStumbles (settings : Settings) (handlers : Handlers) (operation : Operation) : Prop
  /-- Its name is a number of too many digits, or holds one. -/
  | identifier (named : operation.identifier.isTruthy = true) (unspellable : operation.identifier.isSpellable = false)
  /-- It has a handler, and its parts make the compiler stumble. -/
  | parts (has : operation.HasHandler handlers) (stumble : PartsStumble settings operation)

theorem stumbles_operationSchema_iff {operation : Operation} (keys : operation.content.SpellableKeys) :
    Stumbles (operationSchema settings operation.place operation.shared operation.content).outcome.1 ↔
      PartsStumble settings operation := by
  have ofField (key : Scalar) := Tree.KeyedBy.subset keys (operation.content.maps_field_subset key)
  rw [operationSchema_outcome, Stumbles.bind_iff, stumbles_operationParameterSchemas_iff]
  simp only [Stumbles.bind_iff, Stumbles.not_pure, and_false, exists_false, or_false,
    stumbles_requestBody_iff (ofField _), stumbles_responses_iff (ofField _)]
  constructor
  · rintro (stumble | ⟨parameters, ofParameters, ⟨schema, json, stumbles⟩ | ⟨body, ofBody, stumble⟩⟩)
    · exact .parameters stumble
    · exact .body ofParameters json stumbles
    · exact .answers ofParameters ofBody stumble
  · rintro (stumble | ⟨ofParameters, json, stumbles⟩ | ⟨ofParameters, ofBody, stumble⟩)
    · exact .inl stumble
    · exact .inr ⟨_, ofParameters, .inl ⟨_, json, stumbles⟩⟩
    · exact .inr ⟨_, ofParameters, .inr ⟨_, ofBody, stumble⟩⟩

/-- Only an operation that is an object has a name to stumble over, or a handler for it. -/
theorem OperationStumbles.isObject {operation : Operation} (stumbles : OperationStumbles settings handlers operation) :
    ∃ entries, operation.content = .map entries := by
  have named : operation.identifier.isTruthy = true := by
    cases stumbles with
    | identifier named => exact named
    | parts has => exact has.1
  rcases operation.content.field_cases "operationId" with isNull | ⟨entries, content, _⟩
  · rw [Operation.identifier, isNull] at named
    cases named
  · exact ⟨entries, content⟩

/-- **What makes compiling an operation stumble.** -/
theorem Operation.stumbles_compiled_iff {operation : Operation} (keys : operation.content.SpellableKeys) :
    Stumbles (operation.compiled settings handlers) ↔ OperationStumbles settings handlers operation := by
  by_cases object : ∃ entries, operation.content = .map entries
  case neg =>
    have noObject : ∀ entries, operation.content ≠ .map entries := not_exists.mp object
    rw [compiled_of_not_object noObject]
    exact iff_of_false (Stumbles.not_malformed _ _) fun stumbles => object stumbles.isObject
  obtain ⟨entries, content⟩ := object
  by_cases named : operation.identifier.isTruthy = true
  · cases spelled : operation.identifier.spelled with
    | error failure =>
      have unspellable : Stumbles operation.identifier.spelled := by
        rw [spelled, Tree.spelled_error spelled]
        exact .unexpected _
      refine iff_of_true ?_ (.identifier named (Tree.stumbles_spelled_iff.mp unspellable))
      rw [compiled_eq content, if_pos named, spelled, Tree.spelled_error spelled]
      exact .unexpected _
    | ok name =>
      have spellable : ¬ operation.identifier.isSpellable = false := by
        rw [← Tree.stumbles_spelled_iff, spelled]
        exact Stumbles.not_ok _
      cases found : handlers.find? (handlerName name) with
      | none =>
        refine iff_of_false ?_ ?_
        · rw [compiled_of_absent content named spelled found]
          exact Stumbles.not_ok _
        · rintro (⟨_, unspellable⟩ | ⟨⟨_, _, label, same, has⟩, _⟩)
          · exact spellable unspellable
          · cases spelled.symm.trans same
            cases found.symm.trans has
      | some label =>
        rw [compiled_of_handler content named spelled found, Stumbles.bind_pure_iff,
          stumbles_operationSchema_iff keys]
        constructor
        · exact .parts ⟨named, name, label, spelled, found⟩
        · rintro (⟨_, unspellable⟩ | ⟨_, stumble⟩)
          · exact absurd unspellable spellable
          · exact stumble
  · rw [compiled_eq content, if_neg named]
    refine iff_of_false (Stumbles.not_ok _) ?_
    rintro (⟨given, _⟩ | ⟨has, _⟩)
    · exact named given
    · exact named has.1

/-! ### Stops -/

variable {document : Tree}

/-- The keys of the stops of a document are keys of the document. -/
theorem keyedBy_of_mem_stops {sort : Scalar → Prop} (keyed : document.KeyedBy sort) {stop : Stop}
    (member : stop ∈ document.stops) :
    (∃ template content, stop = .item template content ∧ sort template) ∨
      ∃ operation, stop = .operation operation ∧ operation.content.KeyedBy sort := by
  obtain ⟨entry, inPaths, atEntry⟩ := List.mem_flatMap.mp member
  rcases List.mem_cons.mp atEntry with rfl | isOperation
  · have ofPaths := keyed.subset (maps_subset_of_mem_paths inPaths)
    exact .inl ⟨_, _, rfl, (Tree.keyedBy_map_iff.mp ofPaths entry inPaths).1⟩
  · obtain ⟨operation, met, rfl⟩ := List.mem_map.mp isOperation
    have inDocument := maps_subset_of_mem_operations (List.mem_flatMap.mpr ⟨entry, inPaths, met⟩)
    exact .inr ⟨operation, rfl, (keyed.subset inDocument.2).subset inDocument.1⟩

/-- **A stop makes the compiler stumble** when it is an operation that does. A path item under a text never does. -/
theorem Stop.stumbles_result_iff (textKeyed : document.TextKeyed) {stop : Stop} (member : stop ∈ document.stops) :
    Stumbles (stop.result settings handlers) ↔
      ∃ operation, stop = .operation operation ∧ OperationStumbles settings handlers operation := by
  rcases keyedBy_of_mem_stops textKeyed member with ⟨template, content, rfl, isText⟩ | ⟨operation, rfl, keyed⟩
  · refine iff_of_false ?_ nofun
    obtain ⟨path, rfl⟩ := Scalar.isText_iff.mp isText
    by_cases object : ∃ entries, content = .map entries
    · obtain ⟨entries, rfl⟩ := object
      exact Stumbles.not_ok _
    · rw [result_of_not_object (not_exists.mp object)]
      exact Stumbles.not_malformed _ _
  · rw [result, Stumbles.map_iff, Operation.stumbles_compiled_iff (Tree.TextKeyed.spellableKeys keyed)]
    simp only [Stop.operation.injEq, exists_eq_left']

/-! ### Documents -/

/-- What a document is resolved to is an object. A reference in its root can be to a component that is none only
if the document has nothing beside it, but then it has no components either. -/
theorem isObject_of_substituted {resolved : Tree} (succeeded : substituted document = .ok resolved) :
    ∃ entries, resolved = .map entries := by
  obtain ⟨registry, registered, inside⟩ := bind_ok_iff.mp succeeded
  cases document with
  | map entries =>
    cases expand_map_ok_iff.mp inside with
    | kept unknown values => exact ⟨_, rfl⟩
    | spliced isReference found values => exact ⟨_, rfl⟩
    | replaced isReference found noMap alone =>
      rcases completed_cases entries with ⟨empty, _⟩ | ⟨complete, components, given⟩
      · cases registered.symm.trans empty
        cases (Registry.direct?_of_none rfl []).symm.trans found
      · rw [complete] at isReference alone
        rw [eq_singleton_of_reference isReference alone] at given
        cases given
  | _ => cases registered

/-- A document that makes the compiler stumble. -/
inductive DocumentStumbles (settings : Settings) (handlers : Handlers) (document : Tree) : Prop
  /-- There is no object in which components could be looked up. -/
  | registry (stumbles : RegistryStumbles document)
  /-- Its references can be replaced, and the first stop that does not settle is an operation that makes the
  compiler stumble. -/
  | operation {resolved : Tree} {before after : List Stop} {operation : Operation}
      (resolves : (resolveDocument document).outcome.1 = .ok resolved)
      (split : resolved.stops = before ++ .operation operation :: after)
      (earlier : ∀ other ∈ before, other.Settles settings handlers)
      (stumbles : OperationStumbles settings handlers operation)

/-- **Compiling what a document is resolved to stumbles** at the first stop that does not settle. -/
theorem stumbles_compileResolved_iff (textKeyed : document.TextKeyed) (object : ∃ entries, document = .map entries) :
    Stumbles (compileResolved settings handlers document).outcome.1 ↔
      ∃ before operation after, document.stops = before ++ .operation operation :: after ∧
        (∀ other ∈ before, other.Settles settings handlers) ∧ OperationStumbles settings handlers operation := by
  have notMissing (cause : Unexpected) : ∀ missing, Failure.unexpected cause ≠ .missing missing := nofun
  have pathsFound (cause : Unexpected) : (pathsOf document).outcome.1 ≠ .error (.unexpected cause) := by
    intro failed
    obtain ⟨entries, isMap⟩ := object
    rcases pathsOf_error_iff.mp failed with ⟨noMap, _⟩ | ⟨_, _, same⟩
    · exact noMap entries isMap
    · cases same
  have atStop {before after : List Stop} {stop : Stop} (split : document.stops = before ++ stop :: after) :
      Stumbles (stop.result settings handlers) ↔
        ∃ operation, stop = .operation operation ∧ OperationStumbles settings handlers operation :=
    Stop.stumbles_result_iff textKeyed (split ▸ List.mem_append_right before List.mem_cons_self)
  constructor
  · rintro ⟨cause, failed⟩
    rcases (compileResolved_fault_iff (notMissing cause)).mp failed with
      noPaths | ⟨before, stop, after, split, earlier, failing⟩
    · exact absurd noPaths (pathsFound cause)
    · obtain ⟨operation, rfl, stumbles⟩ := (atStop split).mp ⟨cause, failing⟩
      exact ⟨before, operation, after, split, earlier, stumbles⟩
  · rintro ⟨before, operation, after, split, earlier, stumbles⟩
    obtain ⟨cause, failing⟩ := (atStop split).mpr ⟨operation, rfl, stumbles⟩
    exact ⟨cause, (compileResolved_fault_iff (notMissing cause)).mpr (.inr ⟨before, _, after, split, earlier, failing⟩)⟩

/-- **What makes compiling a document stumble**, if all its keys are texts. -/
theorem stumbles_compileDocument_iff (textKeyed : document.TextKeyed) :
    Stumbles (compileDocument settings handlers document).outcome.1 ↔ DocumentStumbles settings handlers document := by
  have ofResolved {resolved : Tree} (resolves : (resolveDocument document).outcome.1 = .ok resolved) :
      Stumbles (compileResolved settings handlers resolved).outcome.1 ↔
        ∃ before operation after, resolved.stops = before ++ .operation operation :: after ∧
          (∀ other ∈ before, other.Settles settings handlers) ∧ OperationStumbles settings handlers operation := by
    have succeeded := (resolveDocument_ok_iff.mp resolves).1
    exact stumbles_compileResolved_iff (keyedBy_substituted rfl textKeyed succeeded)
      (isObject_of_substituted succeeded)
  rw [compileDocument_outcome, Stumbles.bind_iff, stumbles_resolveDocument_iff textKeyed]
  constructor
  · rintro (stumbles | ⟨resolved, resolves, stumbles⟩)
    · exact .registry stumbles
    · obtain ⟨before, operation, after, split, earlier, inOperation⟩ := (ofResolved resolves).mp stumbles
      exact .operation resolves split earlier inOperation
  · rintro (stumbles | ⟨resolves, split, earlier, inOperation⟩)
    · exact .inl stumbles
    · exact .inr ⟨_, resolves, (ofResolved resolves).mpr ⟨_, _, _, split, earlier, inOperation⟩⟩

/-- A fault is a failure of the compiler, or it is unexpected. -/
theorem Run.Confined.failsBy {α : Type} {run : Run α} (confined : run.Confined) :
    FailsBy (·.isCompileFailure = true) run.outcome.1 := by
  intro failure failed
  cases confined.faults failure failed with
  | malformed => exact .inl rfl
  | unexpected cause => exact .inr ⟨cause, rfl⟩

theorem failsBy_compileResolved (settings : Settings) (handlers : Handlers) (resolved : Tree) :
    FailsBy (·.isCompileFailure = true) (compileResolved settings handlers resolved).outcome.1 := by
  rw [compileResolved_outcome]
  refine (confined_pathsOf resolved).failsBy.bind fun paths =>
    (confined_compilePaths settings handlers paths).failsBy.bind fun compiled => ?_
  intro failure failed
  rw [(allRoutes_error_iff.mp failed).1]
  exact .inl rfl

/-- Compiling fails with a failure of the compiler, unless it stumbles. -/
theorem failsBy_compileDocument (settings : Settings) (handlers : Handlers) (document : Tree) :
    FailsBy (·.isCompileFailure = true) (compileDocument settings handlers document).outcome.1 := by
  rw [compileDocument_outcome]
  exact (failsBy_resolveDocument document).bind (failsBy_compileResolved settings handlers)

/-- A document fails with a failure of the compiler, or it makes the compiler stumble. -/
theorem compileDocument_failure_cases {failure : Failure}
    (failed : (compileDocument settings handlers document).outcome.1 = .error failure) :
    failure.isCompileFailure = true ∨ ∃ cause, failure = .unexpected cause :=
  failsBy_compileDocument settings handlers document failure failed

/-- **A document whose keys are texts is compiled, or refused with a failure of the compiler**, which the command line
reports with the exit code of a document that cannot be compiled or of missing handlers, exactly when it does not make
the compiler stumble. -/
theorem own_failures_iff (textKeyed : document.TextKeyed) :
    ((∃ routes, (compileDocument settings handlers document).outcome.1 = .ok routes) ∨
        ∃ failure, (compileDocument settings handlers document).outcome.1 = .error failure ∧
          failure.isCompileFailure = true ∧ (failure.exitCode = 8 ∨ failure.exitCode = 9)) ↔
      ¬ DocumentStumbles settings handlers document := by
  rw [← stumbles_compileDocument_iff textKeyed]
  constructor
  · rintro (⟨routes, compiles⟩ | ⟨failure, failed, own, _⟩) ⟨cause, stumbles⟩
    · cases compiles.symm.trans stumbles
    · cases failed.symm.trans stumbles
      cases own
  · intro settled
    cases outcome : (compileDocument settings handlers document).outcome.1 with
    | ok routes => exact .inl ⟨routes, rfl⟩
    | error failure =>
      rcases compileDocument_failure_cases outcome with own | ⟨cause, rfl⟩
      · exact .inr ⟨failure, rfl, own, Failure.exitCode_of_isCompileFailure own⟩
      · exact absurd ⟨cause, outcome⟩ settled

/-- A document whose only operation has a list of answers. -/
def answersDocument : Tree :=
  .map [("paths", .map [("/a", .map [
    ("get", .map [("operationId", .str "GetA"), ("responses", .list [.map [("description", .str "ok")]])])])])]

theorem compileDocument_answersDocument :
    (compileDocument .default [("getA", .callable "getA")] answersDocument).outcome.1 =
      .error (.unexpected (.notAnObject "list")) := by
  have fails : (compileDocument .default [("getA", .callable "getA")] answersDocument).outcome.1.map List.length =
      .error (.unexpected (.notAnObject "list")) := by
    decide +kernel
  exact map_error_iff.mp fails

theorem own_failures_of_answersDocument :
    answersDocument.TextKeyed ∧ DocumentStumbles .default [("getA", .callable "getA")] answersDocument := by
  have textKeyed : answersDocument.TextKeyed := by decide +kernel
  refine ⟨textKeyed, by_contra fun settled => ?_⟩
  rcases (own_failures_iff textKeyed).mpr settled with ⟨routes, compiles⟩ | ⟨failure, failed, own, _⟩
  · cases compiles.symm.trans compileDocument_answersDocument
  · cases failed.symm.trans compileDocument_answersDocument
    cases own

/-- Not every document is compiled or refused with a failure of the compiler. -/
theorem document_may_be_stumbled_over :
    ¬ ∀ (settings : Settings) (handlers : Handlers) (document : Tree), document.TextKeyed →
      (∃ routes, (compileDocument settings handlers document).outcome.1 = .ok routes) ∨
        ∃ failure, (compileDocument settings handlers document).outcome.1 = .error failure ∧
          failure.isCompileFailure = true := by
  intro each
  rcases each .default [("getA", .callable "getA")] answersDocument (by decide +kernel) with
    ⟨routes, compiles⟩ | ⟨failure, failed, own⟩
  · cases compiles.symm.trans compileDocument_answersDocument
  · cases failed.symm.trans compileDocument_answersDocument
    cases own

end RouteCompiler
