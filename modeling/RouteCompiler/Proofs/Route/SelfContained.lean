/-
**Schemas of routes refer to nothing.**

A document is compiled after its references are resolved, so no operation has any, wherever its parts were written.
What is put into the schema of a route is a part of an operation, filtered or put under the name of a parameter. None
of this makes a reference, so the schemas of a route can be used without the document.

* `SelfContained`: an entry of the schema of a route whose schemas have no references;
* `occurrences_jsonSchema?`, `occurrences_of_ofTree`, `occurrences_of_declarations`: schemas are parts of the document;
* `selfContained_schemasOf`, `occurrences_requestBody`, `occurrences_collectResponses`: the parts of a schema;
* `selfContained_of_hasSchema`: the schema of an operation;
* `selfContained_of_compiled`: the schemas of all routes of a document.
-/

import RouteCompiler.Proofs.Reference.Keyed
import RouteCompiler.Proofs.Route.Coverage
import RouteCompiler.Proofs.Route.Group
import RouteCompiler.Proofs.Schema.References

namespace RouteCompiler

/-- An entry of the schema of a route in which no schema refers to anything: none of the properties in a part of the
request, not the schema of the request, and none of the answers. -/
inductive SelfContained : Scalar × Tree → Prop
  /-- A part of the request. -/
  | part (part : RequestPart) {fields properties : Entries}
      (hasProperties : OrderedMap.get? fields "properties" = some (.map properties))
      (each : ∀ property ∈ properties, references property.2 = []) : SelfContained (.str part.key, .map fields)
  /-- The request. -/
  | body {schema : Tree} (none : references schema = []) : SelfContained ("body", schema)
  /-- The answers. -/
  | answers {schemas : Entries} (each : ∀ answer ∈ schemas, references answer.2 = []) :
      SelfContained ("response", .map schemas)

/-! ### Parts of a tree -/

theorem references_eq_nil_iff {tree : Tree} : references tree = [] ↔ occurrences tree = [] := by
  simp only [List.eq_nil_iff_forall_not_mem, mem_references]

namespace Tree

/-- A field is absent or the value of its key. -/
theorem field_cases (tree : Tree) (key : Scalar) :
    tree.field key = .null ∨ ∃ entries, tree = .map entries ∧ (key, tree.field key) ∈ entries := by
  cases tree with
  | map entries =>
    rw [field, get?_map]
    cases found : OrderedMap.get? entries key with
    | none => exact Or.inl rfl
    | some value => exact Or.inr ⟨entries, rfl, OrderedMap.mem_of_get?_eq_some found⟩
  | _ => exact Or.inl rfl

theorem maps_field_subset (tree : Tree) (key : Scalar) : (tree.field key).maps ⊆ tree.maps := by
  rcases tree.field_cases key with absent | ⟨entries, isMap, member⟩
  · rw [absent, (Atomic.scalar _).maps_eq]
    exact List.nil_subset _
  · have inside := maps_subset_of_mem member
    rwa [← isMap] at inside

theorem KeyedBy.isPair_field {sort : Scalar → Prop} {tree : Tree} (keyed : tree.KeyedBy sort) (key : Scalar) :
    (tree.field key).isPair = false := by
  rcases tree.field_cases key with absent | ⟨entries, isMap, member⟩
  · rw [absent]
    rfl
  · rw [isMap] at keyed
    exact (keyed entries (self_mem_maps entries) _ member).2

/-- What iterating over a tree yields stands in it, unless the tree is an entry by itself. -/
theorem occurrences_of_elements? {tree : Tree} {elements : List Tree} (single : tree.isPair = false)
    (yields : tree.elements? = some elements) : ∀ element ∈ elements, occurrences element ⊆ occurrences tree := by
  -- all but the items of a list are scalars
  have ofScalars {α : Type} {values : List α} {make : α → Scalar}
      (same : elements = values.map fun value => .scalar (make value)) :
      ∀ element ∈ elements, occurrences element ⊆ occurrences tree := by
    intro element member
    rw [same] at member
    obtain ⟨value, _, rfl⟩ := List.mem_map.mp member
    exact List.nil_subset _
  unfold elements? at yields
  split at yields
  · cases yields
    intro item member
    exact occurrences_subset (maps_subset_of_mem_items member)
  · exact ofScalars (Option.some.inj yields).symm
  · cases single
  · exact ofScalars (Option.some.inj yields).symm
  · exact ofScalars (Option.some.inj yields).symm
  · exact ofScalars (Option.some.inj yields).symm
  · cases yields

theorem occurrences_orElse (tree : Tree) : occurrences (tree.orElse (.map [])) ⊆ occurrences tree := by
  unfold orElse
  split
  · exact List.Subset.refl _
  · exact List.nil_subset _

end Tree

/-! ### Parts of an operation -/

/-- The entry that is taken is that of one of the media types. -/
theorem exists_get?_of_firstMedia? {types : List String} {content : Entries} {media : Tree}
    (isFirst : firstMedia? content types = some media) :
    ∃ type, OrderedMap.get? content (.str type) = some media := by
  induction types with
  | nil => cases isFirst
  | cons type rest ih =>
    rw [firstMedia?] at isFirst
    split at isFirst
    · exact ih isFirst
    · exact ih isFirst
    · rename_i given
      cases isFirst
      exact ⟨type, given⟩

/-- The schema of JSON content stands in the body or the answer. -/
theorem occurrences_jsonSchema? {types : List String} {node schema : Tree}
    (found : jsonSchema? types node = some schema) : occurrences schema ⊆ occurrences node := by
  unfold jsonSchema? at found
  split at found
  · rename_i content given
    obtain ⟨media, isFirst, rfl⟩ := Option.map_eq_some_iff.mp found
    obtain ⟨type, ofType⟩ := exists_get?_of_firstMedia? isFirst
    have inNode : occurrences (.map content) ⊆ occurrences node := by
      cases node with
      | map entries => exact occurrences_subset_of_get? given
      | _ => cases given
    intro pointer inSchema
    have inField := Tree.occurrences_orElse _ inSchema
    exact inNode (occurrences_subset_of_get? ofType (occurrences_subset (Tree.maps_field_subset _ _) inField))
  · cases found

/-- The schema of a parameter stands in its declaration. -/
theorem occurrences_of_ofTree {tree : Tree} {parameter : Parameter}
    (declares : Parameter.ofTree tree = .ok parameter) : occurrences parameter.schema ⊆ occurrences tree := by
  cases tree with
  | map entries =>
    obtain ⟨name, _, later⟩ := bind_ok_iff.mp declares
    obtain ⟨part, _, same⟩ := bind_ok_iff.mp later
    cases same
    exact List.Subset.trans (Tree.occurrences_orElse _) (occurrences_subset (Tree.maps_field_subset _ _))
  | _ => cases declares

/-- Declarations stand in the list of them. -/
theorem occurrences_of_declarations {tree : Tree} {declared : List Tree} (single : tree.isPair = false)
    (given : declarations tree = .ok declared) :
    ∀ declaration ∈ declared, occurrences declaration ⊆ occurrences tree := by
  unfold declarations at given
  split at given
  · split at given
    · rename_i elements yields
      cases given
      exact Tree.occurrences_of_elements? single yields
    · cases given
  · cases given
    exact nofun

/-- **The schemas of parameters without references** are self-contained. -/
theorem selfContained_schemasOf {derive : Bool} {parameters : List Parameter}
    (none : ∀ parameter ∈ parameters, occurrences parameter.schema = []) :
    ∀ entry ∈ schemasOf derive parameters, SelfContained entry := by
  intro entry member
  obtain ⟨⟨part, group⟩, inGroups, rfl⟩ := List.mem_map.mp member
  refine .part part (get?_wrapObject_properties _ _) fun property inProperties => ?_
  obtain ⟨declared, inGroup, rfl⟩ := List.mem_map.mp inProperties
  obtain ⟨parameter, inParameters, same⟩ := schema_of_groupParameters _ inGroups declared inGroup
  rw [references_eq_nil_iff, same]
  exact none parameter inParameters

variable {settings : Settings} {location : Location}

theorem occurrences_requestBody {body : Tree} {schema : Entries}
    (made : (requestBody settings location body).outcome.1 = .ok schema) :
    ∀ entry ∈ schema, entry.1 = "body" ∧ occurrences entry.2 ⊆ occurrences body := by
  unfold requestBody at made
  split at made
  · cases made
    exact nofun
  · rename_i found
    rw [Run.outcome_bind _ fun _ => .pure _] at made
    obtain ⟨filtered, atSchema, same⟩ := bind_ok_iff.mp made
    cases same
    refine List.forall_mem_singleton.mpr ⟨rfl, ?_⟩
    exact List.Subset.trans (Schema.occurrences_filterSchema atSchema) (occurrences_jsonSchema? found)

theorem occurrences_responseSchema {status : Scalar} {response : Tree} {schema : Option Tree}
    (made : (responseSchema settings location status response).outcome.1 = .ok schema) :
    ∀ tree ∈ schema, occurrences tree ⊆ occurrences response := by
  unfold responseSchema at made
  split at made
  · cases made
    exact nofun
  · rename_i found
    obtain ⟨spelled, _, later⟩ := run_bind_ok_iff.mp made
    obtain ⟨filtered, atSchema, same⟩ := run_bind_ok_iff.mp later
    cases same
    rintro _ ⟨⟩
    rw [(Schema.confined_filterSchema _ _ _ _ _).steady] at atSchema
    exact List.Subset.trans (Schema.occurrences_filterSchema atSchema) (occurrences_jsonSchema? found)

/-- Answers are collected from the answers that are there. -/
theorem occurrences_collectResponses {collected entries result : Entries} {pointers : List Pointer}
    (before : ∀ answer ∈ collected, occurrences answer.2 ⊆ pointers)
    (each : ∀ entry ∈ entries, occurrences entry.2 ⊆ pointers)
    (made : (collectResponses settings location collected entries).outcome.1 = .ok result) :
    ∀ answer ∈ result, occurrences answer.2 ⊆ pointers := by
  induction entries generalizing collected with
  | nil =>
    cases made
    exact before
  | cons entry rest ih =>
    obtain ⟨status, response⟩ := entry
    obtain ⟨atResponse, atRest⟩ := List.forall_mem_cons.mp each
    rw [collectResponses, Run.outcome_bind] at made
    · obtain ⟨schema, ofResponse, later⟩ := bind_ok_iff.mp made
      cases schema with
      | none => exact ih before atRest later
      | some schema =>
        refine ih (fun answer member => ?_) atRest later
        rcases OrderedMap.mem_insert_cases member with rfl | old
        · exact List.Subset.trans (occurrences_responseSchema ofResponse schema rfl) atResponse
        · exact before answer old
    · rintro (_ | schema)
      · exact (confined_collectResponses settings location _ rest).steady
      · exact (confined_collectResponses settings location _ rest).steady

theorem selfContained_responses {answers : Tree} {schemas : Entries} (none : occurrences answers = [])
    (made : (responses settings location answers).outcome.1 = .ok schemas) :
    ∀ entry ∈ schemas, SelfContained entry := by
  unfold responses at made
  split at made
  · split at made
    · rename_i entries
      rw [Run.outcome_bind _ fun _ => .pure _] at made
      obtain ⟨collected, collects, same⟩ := bind_ok_iff.mp made
      cases same
      split
      · exact nofun
      · refine List.forall_mem_singleton.mpr (.answers fun answer member => ?_)
        have inside := occurrences_collectResponses (List.forall_mem_nil _) (fun entry inEntries =>
          occurrences_subset (Tree.maps_subset_of_mem inEntries)) collects answer member
        rw [none] at inside
        exact references_eq_nil_iff.mpr (List.eq_nil_of_subset_nil inside)
    · cases made
  · cases made
    exact nofun

/-! ### Operations -/

/-- Neither an operation nor the parameters that it shares have references, and no entry stands in the place of its
parameters. -/
structure Operation.IsResolved (operation : Operation) : Prop where
  content : occurrences operation.content = []
  shared : occurrences operation.shared = []
  own : (operation.content.field "parameters").isPair = false
  ofPath : operation.shared.isPair = false

/-- **The schema of an operation without references** is self-contained. -/
theorem selfContained_of_hasSchema {operation : Operation} {schema : Entries} (resolved : operation.IsResolved)
    (hasSchema : HasSchema settings operation schema) : ∀ entry ∈ schema, SelfContained entry := by
  have ofField (key : Scalar) : occurrences (operation.content.field key) = [] := by
    have inside := occurrences_subset (operation.content.maps_field_subset key)
    rw [resolved.content] at inside
    exact List.eq_nil_of_subset_nil inside
  obtain ⟨⟨parameters, body, answers, parts, _, _, rfl⟩, _⟩ := hasSchema
  obtain ⟨declared, declares, ofParameters⟩ := parts.parameters
  obtain ⟨own, ofOwn, later⟩ := bind_ok_iff.mp declares
  obtain ⟨shared, ofShared, same⟩ := bind_ok_iff.mp later
  cases same
  obtain ⟨each, declaredEach, same⟩ := bind_ok_iff.mp ofParameters
  cases same
  have noReference : ∀ declaration ∈ own ++ shared, occurrences declaration = [] := by
    intro declaration member
    rcases List.mem_append.mp member with inOwn | inShared
    · have inside := occurrences_of_declarations resolved.own ofOwn declaration inOwn
      rw [ofField] at inside
      exact List.eq_nil_of_subset_nil inside
    · have inside := occurrences_of_declarations resolved.ofPath ofShared declaration inShared
      rw [resolved.shared] at inside
      exact List.eq_nil_of_subset_nil inside
  intro entry member
  rcases List.mem_append.mp member with inFront | inAnswers
  · rcases List.mem_append.mp inFront with inParameters | inBody
    · refine selfContained_schemasOf (fun parameter inEach => ?_) entry inParameters
      obtain ⟨declaration, inDeclared, declares⟩ := exists_left_of_mem (mapM_ok_iff.mp declaredEach) inEach
      have inside := occurrences_of_ofTree declares
      rw [noReference declaration inDeclared] at inside
      exact List.eq_nil_of_subset_nil inside
    · obtain ⟨isBody, inside⟩ := occurrences_requestBody parts.body entry inBody
      rw [ofField] at inside
      obtain ⟨key, value⟩ := entry
      cases isBody
      exact .body (references_eq_nil_iff.mpr (List.eq_nil_of_subset_nil inside))
  · exact selfContained_responses (ofField _) parts.answers entry inAnswers

/-! ### Documents -/

/-- The paths stand in the document. -/
theorem maps_subset_of_mem_paths {document : Tree} {entry : Scalar × Tree} (member : entry ∈ document.paths) :
    (Tree.map document.paths).maps ⊆ document.maps := by
  rw [← Tree.field_paths_of_mem member]
  exact document.maps_field_subset "paths"

/-- The parts of an operation stand in its document. -/
theorem maps_subset_of_mem_operations {document : Tree} {operation : Operation}
    (member : operation ∈ document.operations) :
    operation.content.maps ⊆ (Tree.map operation.item).maps ∧ (Tree.map operation.item).maps ⊆ document.maps := by
  obtain ⟨entry, inPaths, atEntry⟩ := List.mem_flatMap.mp member
  have inDocument : entry.2.maps ⊆ document.maps :=
    List.Subset.trans (Tree.maps_subset_of_mem inPaths) (maps_subset_of_mem_paths inPaths)
  unfold operationsAt at atEntry
  split at atEntry
  · obtain ⟨inner, inItem, met⟩ := List.mem_filterMap.mp atEntry
    obtain ⟨verb, _, rfl⟩ := Option.map_eq_some_iff.mp met
    exact ⟨Tree.maps_subset_of_mem inItem, inDocument⟩
  · cases atEntry

theorem Operation.isResolved_of_mem {document : Tree} {operation : Operation} (listed : document.PairsListed)
    (none : occurrences document = []) (member : operation ∈ document.operations) : operation.IsResolved := by
  obtain ⟨inItem, inDocument⟩ := maps_subset_of_mem_operations member
  have without {tree : Tree} (inside : tree.maps ⊆ (Tree.map operation.item).maps) : occurrences tree = [] := by
    have inAll := occurrences_subset (List.Subset.trans inside inDocument)
    rw [none] at inAll
    exact List.eq_nil_of_subset_nil inAll
  have ofItem := Tree.KeyedBy.subset listed inDocument
  exact {
    content := without inItem
    shared := without (Tree.maps_field_subset _ _)
    own := (ofItem.subset inItem).isPair_field _
    ofPath := ofItem.isPair_field _ }

variable {handlers : Handlers} {document : Tree}

/-- **The schemas of a compiled document refer to nothing**, with whatever references its parameters, requests,
answers and path items were written. As in every document that is read, entries must stand in lists alone. -/
theorem selfContained_of_compiled {routes : List Route} (listed : document.PairsListed)
    (compiles : (compileDocument settings handlers document).outcome.1 = .ok routes) :
    ∀ route ∈ routes, ∀ entry ∈ route.schema, SelfContained entry := by
  rw [compileDocument_outcome] at compiles
  obtain ⟨resolved, resolves, compiled⟩ := bind_ok_iff.mp compiles
  obtain ⟨succeeded, none⟩ := resolveDocument_ok_iff.mp resolves
  obtain ⟨_, serve⟩ := compileResolved_ok_iff.mp compiled
  intro route member
  obtain ⟨operation, inOperations, serves⟩ := exists_left_of_mem serve member
  have isResolved := Operation.isResolved_of_mem (keyedBy_substituted trivial listed succeeded) none inOperations
  exact selfContained_of_hasSchema isResolved serves.schema

theorem selfContained_of_usersDocument :
    usersDocument.PairsListed ∧ ∃ routes,
      (compileDocument .default usersHandlers usersDocument).outcome.1 = .ok routes ∧ routes.length = 3 ∧
      ∀ route ∈ routes, ∀ entry ∈ route.schema, SelfContained entry := by
  have listed : usersDocument.PairsListed := by decide +kernel
  have served : (compileDocument .default usersHandlers usersDocument).outcome.1.map List.length = .ok 3 := by
    decide +kernel
  obtain ⟨routes, compiles, three⟩ := map_ok_iff.mp served
  exact ⟨listed, routes, compiles, three, selfContained_of_compiled listed compiles⟩

end RouteCompiler
