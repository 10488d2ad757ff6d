/-
**Schemas of parameters that are declared again.**

The schema of a part of the request has the names that are declared in the part, each once and in the order of their
first declarations, under the schemas of their last declarations. Where required names are asked for, those are
listed whose last declaration is required. In the routes of a path the declarations of the path come last, so they
replace those of an operation.

* `Wraps`, `wraps_schema`: the schema of the declarations of one part;
* `PartsWrap`, `parameterSchemas_ok_iff`: the schemas by part;
* `DeclaredBy`: the declarations of an operation and of its path;
* `hasSchema_of_compileOperation`, `matched_of_compileMethods`: the routes of a path item;
* `last_declaration_wins`: the schemas of a list of declarations, and those of routes.
-/

import RouteCompiler.Proofs.Route.Declaration
import RouteCompiler.Proofs.Route.Enumeration

namespace RouteCompiler

/-! ### One part -/

/-- The schema of the declarations of a part. -/
structure Wraps (derive : Bool) (declared : List Parameter) (schema : Tree) : Prop where
  type : schema.get? "type" = some (.str "object")
  /-- Each name that is declared has the schema of its last declaration, in the order of the first ones. -/
  properties : ∃ properties, schema.get? "properties" = some (.map properties) ∧
    OrderedMap.keys properties = (namesOf declared).eraseDups.map .str ∧
    ∀ name, OrderedMap.get? properties (.str name) = (last? name declared).map (·.schema)
  /-- The names whose last declaration is required are listed where that is asked for and there are any. -/
  required : ∃ names : List String, names.Nodup ∧
    (∀ name, name ∈ names ↔
      derive = true ∧ ∃ parameter, last? name declared = some parameter ∧ parameter.isRequired = true) ∧
    schema.get? "required" = if names = [] then none else some (.list (names.map .str))

namespace ParameterGroup

/-- The properties of a part have their places by the first declarations and their schemas by the last ones. -/
theorem exists_properties_schema (derive : Bool) (declared : List Parameter) :
    ∃ properties, ((ofList declared).schema derive).get? "properties" = some (.map properties) ∧
      OrderedMap.keys properties = (namesOf declared).eraseDups.map .str ∧
      ∀ name, OrderedMap.get? properties (.str name) = (last? name declared).map (·.schema) := by
  refine ⟨_, get?_wrapObject_properties _ _, ?_, fun name => ?_⟩
  · rw [← keys_properties_ofList]
    simp [OrderedMap.keys]
  · rw [← get?_properties_ofList]
    refine (OrderedMap.get?_rename Scalar.str.inj id _ name).trans ?_
    rw [Option.map_id, id]

/-- The required names of a part are listed where that is asked for and there are any. -/
theorem get?_required_schema (derive : Bool) (declared : List Parameter) :
    ((ofList declared).schema derive).get? "required" =
      if derive = false ∨ requiredNames declared = [] then none
      else some (.list ((requiredNames declared).map .str)) := by
  refine (get?_wrapObject_required _ _).trans ?_
  rw [required_ofList]
  cases derive with
  | false => rfl
  | true => simp only [if_true, List.map_eq_nil_iff, Bool.true_eq_false, false_or]

end ParameterGroup

/-- **The schema of a part** is that of the declarations in it. -/
theorem wraps_schema (derive : Bool) (declared : List Parameter) :
    Wraps derive declared ((ParameterGroup.ofList declared).schema derive) where
  type := get?_wrapObject_type _ _
  properties := ParameterGroup.exists_properties_schema derive declared
  required := by
    rw [ParameterGroup.get?_required_schema]
    cases derive with
    | false => exact ⟨[], .nil, by simp, rfl⟩
    | true =>
      refine ⟨requiredNames declared, nodup_requiredNames declared, fun name => ?_, ?_⟩
      · rw [mem_requiredNames, and_iff_right rfl]
      · simp only [Bool.true_eq_false, false_or]

/-! ### All parts -/

/-- Each part in which parameters are declared has the schema of the declarations in it. -/
def PartsWrap (derive : Bool) (declared : List Parameter) (schemas : Entries) : Prop :=
  ∀ part ∈ declared.map (·.part), ∃ schema, OrderedMap.get? schemas (.str part.key) = some schema ∧
    Wraps derive (inPart part declared) schema

theorem get?_schemasOf (derive : Bool) {declared : List Parameter} {part : RequestPart}
    (present : part ∈ declared.map (·.part)) :
    OrderedMap.get? (schemasOf derive declared) (.str part.key) =
      some ((ParameterGroup.ofList (inPart part declared)).schema derive) := by
  have apart {first second : RequestPart} (same : Scalar.str first.key = .str second.key) : first = second :=
    RequestPart.key_injective (Scalar.str.inj same)
  refine (OrderedMap.get?_rename apart (ParameterGroup.schema derive) _ part).trans ?_
  rw [get?_groupParameters present, Option.map_some]

theorem partsWrap_schemasOf (derive : Bool) (declared : List Parameter) :
    PartsWrap derive declared (schemasOf derive declared) :=
  fun _ present => ⟨_, get?_schemasOf derive present, wraps_schema derive _⟩

theorem parameterSchemas_ok_iff {derive : Bool} {trees : List Tree} {schemas : Entries} :
    parameterSchemas derive trees = .ok schemas ↔
      ∃ declared, List.Forall₂ Declares trees declared ∧ schemas = schemasOf derive declared := by
  simp only [parameterSchemas, bind_ok_iff, mapM_ok_iff, Parameter.ofTree_ok_iff]
  refine exists_congr fun declared => and_congr_right fun _ => ⟨fun same => (Except.ok.inj same).symm, ?_⟩
  rintro rfl
  rfl

/-! ### Routes -/

/-- The declarations in a tree: those of the elements of a list, or none where it does not count as given. -/
def DeclaredBy (tree : Tree) (declared : List Parameter) : Prop :=
  ∃ trees, declarations tree = .ok trees ∧ List.Forall₂ Declares trees declared

/-- **The schema of an operation** has the schemas of its own declarations followed by those of its path. -/
theorem HasSchema.partsWrap {settings : Settings} {operation : Operation} {schema : Entries}
    (hasSchema : HasSchema settings operation schema) :
    ∃ own shared, DeclaredBy (operation.content.field "parameters") own ∧ DeclaredBy operation.shared shared ∧
      PartsWrap settings.deriveRequired (own ++ shared) schema := by
  obtain ⟨parameters, body, answers, ⟨⟨trees, gathered, made⟩, _, _⟩, _, _, rfl⟩ := hasSchema.parts
  obtain ⟨declared, read, rfl⟩ := parameterSchemas_ok_iff.mp made
  obtain ⟨ownTrees, ofOwn, later⟩ := bind_ok_iff.mp gathered
  obtain ⟨sharedTrees, ofShared, same⟩ := bind_ok_iff.mp later
  cases same
  obtain ⟨own, shared, readOwn, readShared, rfl⟩ := forall₂_append_left_iff.mp read
  refine ⟨own, shared, ⟨ownTrees, ofOwn, readOwn⟩, ⟨sharedTrees, ofShared, readShared⟩, fun part present => ?_⟩
  obtain ⟨schema, found, wraps⟩ := partsWrap_schemasOf settings.deriveRequired (own ++ shared) part present
  refine ⟨schema, ?_, wraps⟩
  rw [List.append_assoc, OrderedMap.get?_append, found]
  rfl

/-- A route that an operation is compiled to has a schema of the operation, whatever its routing pattern is. -/
theorem hasSchema_of_compileOperation {settings : Settings} {handlers : Handlers} {operation : Operation}
    {url : String} {route : Route}
    (compiles : (compileOperation settings handlers operation.path url operation.shared operation.verb
      operation.content).outcome.1 = .ok (.route route)) :
    HasSchema settings operation route.schema := by
  have steady := (confined_operationSchema settings operation.place operation.shared operation.content).steady
  unfold compileOperation at compiles
  obtain ⟨_, _, later⟩ := run_bind_ok_iff.mp compiles
  split at later
  · dsimp only at later
    split at later
    · obtain ⟨operationId, _, further⟩ := run_bind_ok_iff.mp later
      split at further
      · cases further
      · obtain ⟨schema, made, same⟩ := run_bind_ok_iff.mp further
        cases same
        exact operationSchema_ok_iff.mp ((steady _).symm.trans made)
    · cases later
  · cases later

/-- The routes of a path item are those of its operations, in their order. -/
theorem matched_of_compileMethods {settings : Settings} {handlers : Handlers} {path url : String} {item : Entries}
    {routes : List Route} (compiles : (compileMethods settings handlers path url (.map item)).outcome.1 = .ok routes) :
    List.Forall₂ (fun operation route => HasSchema settings operation route.schema)
      (item.filterMap (Operation.ofEntry? path item)) routes := by
  have walk : (compileOperations settings handlers path url item).outcome.1 =
      (item.filterMap (Operation.ofEntry? path item)).mapM fun operation =>
        (compileOperation settings handlers operation.path url operation.shared operation.verb
          operation.content).outcome.1 :=
    compileEntries_eq_mapM (fun _ _ => rfl) item
  rw [compileMethods, Run.outcome_bind _ steady_allRoutes, walk] at compiles
  obtain ⟨compiled, made, all⟩ := bind_ok_iff.mp compiles
  rw [allRoutes_ok_iff.mp all, mapM_ok_iff, List.forall₂_map_right_iff] at made
  exact made.imp fun operation route => hasSchema_of_compileOperation

/-- The schema of a parameter among the schemas by part. -/
def parameterSchema? (schemas : Entries) (part : RequestPart) (name : String) : Option Tree :=
  (OrderedMap.get? schemas (.str part.key)).bind fun schema => (schema.field "properties").get? (.str name)

theorem PartsWrap.parameterSchema?_eq {derive : Bool} {declared : List Parameter} {schemas : Entries}
    (wraps : PartsWrap derive declared schemas) {part : RequestPart} {name : String} {parameter : Parameter}
    (isLast : last? name (inPart part declared) = some parameter) :
    parameterSchema? schemas part name = some parameter.schema := by
  have member := List.mem_filter.mp (mem_of_last? isLast)
  have present : part ∈ declared.map (·.part) :=
    List.mem_map.mpr ⟨parameter, member.1, of_decide_eq_true member.2⟩
  obtain ⟨schema, found, wrapsPart⟩ := wraps part present
  obtain ⟨properties, isProperties, _, values⟩ := wrapsPart.properties
  rw [parameterSchema?, found, Option.bind_some, Tree.field, isProperties, Option.getD_some, Tree.get?_map, values,
    isLast, Option.map_some]

/-- A route has the schemas of the declarations of its operation followed by those of the path. A parameter that the
path declares has its schema from there, whatever the operation declares. -/
def FollowsDeclarations (settings : Settings) (operation : Operation) (route : Route) : Prop :=
  ∃ own shared, DeclaredBy (operation.content.field "parameters") own ∧ DeclaredBy operation.shared shared ∧
    PartsWrap settings.deriveRequired (own ++ shared) route.schema ∧
    ∀ part name parameter, last? name (inPart part shared) = some parameter →
      parameterSchema? route.schema part name = some parameter.schema

theorem HasSchema.followsDeclarations {settings : Settings} {operation : Operation} {route : Route}
    (hasSchema : HasSchema settings operation route.schema) : FollowsDeclarations settings operation route := by
  obtain ⟨own, shared, ofOwn, ofShared, wraps⟩ := hasSchema.partsWrap
  refine ⟨own, shared, ofOwn, ofShared, wraps, fun part name parameter isLast => ?_⟩
  refine wraps.parameterSchema?_eq ?_
  rw [inPart_append, last?_append, isLast, Option.some_or]

/-- **The last declaration of a parameter wins.** In the schemas of a list of declarations the parts stand in the
order of the first declarations in them, and each of them wraps the declarations in it. So in the routes of a path
item a parameter that the path declares replaces the one of the operation with its name and part. -/
theorem last_declaration_wins :
    (∀ (derive : Bool) (trees : List Tree) (schemas : Entries), parameterSchemas derive trees = .ok schemas →
      ∃ declared, List.Forall₂ Declares trees declared ∧
        OrderedMap.keys schemas = (declared.map (·.part)).eraseDups.map (fun part => .str part.key) ∧
        PartsWrap derive declared schemas) ∧
      ∀ (settings : Settings) (handlers : Handlers) (path url : String) (item : Entries) (routes : List Route),
        (compileMethods settings handlers path url (.map item)).outcome.1 = .ok routes →
          List.Forall₂ (FollowsDeclarations settings) (item.filterMap (Operation.ofEntry? path item)) routes := by
  refine ⟨fun derive trees schemas made => ?_, fun settings handlers path url item routes compiles => ?_⟩
  · obtain ⟨declared, read, rfl⟩ := parameterSchemas_ok_iff.mp made
    exact ⟨declared, read, keys_schemasOf derive declared, partsWrap_schemasOf derive declared⟩
  · exact (matched_of_compileMethods compiles).imp fun operation route hasSchema => hasSchema.followsDeclarations

/-- A page that is first required and then not, and a header of its name in between. -/
def pageDeclarations : List Tree :=
  [.map [("name", .str "page"), ("in", .str "query"), ("required", .bool true)],
    .map [("name", .str "page"), ("in", .str "header"), ("required", .bool true)],
    .map [("name", .str "page"), ("in", .str "query"), ("schema", .map [("type", .str "integer")])]]

/-- An operation with an identifier and a path that declares it otherwise. -/
def itemsItem : Entries :=
  [("parameters", identifier "string"),
    ("get", .map [("operationId", .str "GetItem"), ("parameters", identifier "integer")])]
where
  identifier (type : String) : Tree :=
    .list [.map [("name", .str "id"), ("in", .str "path"), ("schema", .map [("type", .str type)])]]

theorem last_declaration_wins_of_itemsItem :
    (∃ schemas, parameterSchemas true pageDeclarations = .ok schemas ∧
      parameterSchema? schemas .query "page" = some (.map [("type", .str "integer")]) ∧
      ∃ declared, List.Forall₂ Declares pageDeclarations declared ∧
        OrderedMap.keys schemas = (declared.map (·.part)).eraseDups.map (fun part => .str part.key) ∧
        PartsWrap true declared schemas) ∧
      ∃ routes,
        (compileMethods .default [("getItem", .callable "read")] "/items" "/items" (.map itemsItem)).outcome.1 =
          .ok routes ∧
        (routes.map fun route => parameterSchema? route.schema .path "id") =
          [some (.map [("type", .str "string")])] ∧
        List.Forall₂ (FollowsDeclarations .default) (itemsItem.filterMap (Operation.ofEntry? "/items" itemsItem))
          routes := by
  constructor
  · have made : parameterSchemas true pageDeclarations = .ok [
        ("querystring", .map (wrapObject [("page", .map [("type", .str "integer")])] [])),
        ("header", .map (wrapObject [("page", .map [])] [.str "page"]))] := by
      decide +kernel
    exact ⟨_, made, by decide, last_declaration_wins.1 _ _ _ made⟩
  · have made : ((compileMethods .default [("getItem", .callable "read")] "/items" "/items"
        (.map itemsItem)).outcome.1.map fun routes =>
          routes.map fun route => parameterSchema? route.schema .path "id") =
        .ok [some (.map [("type", .str "string")])] := by
      decide +kernel
    obtain ⟨routes, compiles, schemas⟩ := map_ok_iff.mp made
    exact ⟨routes, compiles, schemas, last_declaration_wins.2 _ _ _ _ _ _ compiles⟩

end RouteCompiler
