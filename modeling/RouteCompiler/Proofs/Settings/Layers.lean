/-
**Which layer a setting comes from.**

Each setting is read from the first layer that gives it: from what is asked for, else from the environment, else
from the file of the project, else from the defaults. The layers differ in what counts as not given: no value or
the absent one where it is asked for, a variable that is not set or empty in the environment, no entry in the file.
So no limit on the depth can be given by the file as the absent value, which is a value there. What a layer gives
for a setting that a layer above it sets is never looked at, be it a setting or not.

* `askedFor`, `variableFor`, `layered`: what the layers give for one setting;
* `ofEntries_congr`, `ofEntries_append_default`: what validation looks at, and that the defaults pass it;
* `ofEnvironment_ok`, `explicit_ok`: the layers as documents;
* `IsLayered`, `ofLayers_outcome`: the settings of the layers field by field, and what becomes of them;
* `AgreeBeneath`: lower layers that differ in what is set above them only;
* `resolve_layered`: the settings of a command.
-/

import RouteCompiler.Proofs.Computation
import RouteCompiler.Settings.Layers

namespace RouteCompiler.Settings

/-! ### The layers of one setting -/

/-- What a value that is asked for comes to: the absent one to nothing, a text for the depth to the depth that it
stands for. -/
def askedValue (key : Scalar) : Tree → Except ConfigProblem (Option Tree)
  | .null => .ok none
  | .str text =>
    if key = .str filterDepthName then (depthOfText filterDepthName text).map some else .ok (some (.str text))
  | value => .ok (some value)

/-- What is asked for a setting. -/
def askedFor (overrides : Entries) (setting : String) : Except ConfigProblem (Option Tree) :=
  match OrderedMap.get? overrides (.str setting) with
  | none => .ok none
  | some value => askedValue (.str setting) value

/-- How the text of the variable of a setting is read. -/
def readVariable (setting text : String) : Except ConfigProblem Tree :=
  if setting = filterDepthName then depthOfText (variableName setting) text
  else if setting = jsonMediaTypesName then .ok (mediaTypesOfText text)
  else booleanOfWord (variableName setting) text

/-- What the environment gives for a setting: nothing where its variable is not set or is empty. -/
def variableFor (environment : List (String × String)) (setting : String) :
    Except ConfigProblem (Option Tree) :=
  match OrderedMap.get? environment (variableName setting) with
  | none => .ok none
  | some text => if text.isEmpty then .ok none else (readVariable setting text).map some

/-- The value of a setting in the layers, the first one that is given. -/
def layered (file : Entries) (environment : List (String × String)) (overrides : Entries) (setting : String) :
    Except ConfigProblem (Option Tree) := do
  let asked ← askedFor overrides setting
  let given ← variableFor environment setting
  return (asked <|> given <|> OrderedMap.get? file (.str setting) <|> default.toTree.get? (.str setting))

/-! ### Validation field by field -/

/-- What is wrong with the names of the entries of a document. -/
def unknownNames (entries : Entries) : List Issue :=
  (OrderedMap.keys entries).filterMap nameIssue?

theorem unknownNames_append (first second : Entries) :
    unknownNames (first ++ second) = unknownNames first ++ unknownNames second := by
  simp [unknownNames]

theorem nameIssue?_of_mem {setting : String} (known : setting ∈ names) : nameIssue? (.str setting) = none :=
  if_pos known

/-- **Validation looks at the values of the settings and at the unknown names only.** -/
theorem ofEntries_congr {first second : Entries}
    (same : ∀ setting ∈ names,
      OrderedMap.get? first (.str setting) = OrderedMap.get? second (.str setting))
    (unknown : unknownNames first = unknownNames second) : ofEntries first = ofEntries second := by
  have field {α : Type} {setting : String} (known : setting ∈ names) (otherwise : α)
      (read : Tree → Except (List Issue) α) :
      readField first setting otherwise read = readField second setting otherwise read := by
    unfold readField
    rw [same setting known]
  unfold unknownNames at unknown
  unfold ofEntries
  rw [field (by simp [names]), field (by simp [names]), field (by simp [names]), field (by simp [names]), unknown]

/-- The entries of the defaults. -/
def defaultEntries : Entries :=
  default.toTree.entries?.getD []

/-- A field that is not given is read like one with a value that passes for the default. -/
theorem readField_append {α : Type} {entries others : Entries} {field : String} {otherwise : α} {value : Tree}
    {read : Tree → Except (List Issue) α} (given : OrderedMap.get? others (.str field) = some value)
    (passes : read value = .ok otherwise) :
    readField (entries ++ others) field otherwise read = readField entries field otherwise read := by
  unfold readField
  rw [OrderedMap.get?_append, given]
  cases OrderedMap.get? entries (.str field) with
  | none => exact passes
  | some _ => rfl

/-- **Every default passes validation**: to give the defaults after all else changes nothing. -/
theorem ofEntries_append_default (entries : Entries) :
    ofEntries (entries ++ defaultEntries) = ofEntries entries := by
  have unknown : (OrderedMap.keys (entries ++ defaultEntries)).filterMap nameIssue? =
      (OrderedMap.keys entries).filterMap nameIssue? := by
    rw [OrderedMap.keys_append, List.filterMap_append]
    exact List.append_nil _
  unfold ofEntries
  rw [readField_append (by rfl) (by rfl), readField_append (by rfl) (by rfl), readField_append (by rfl) (by rfl),
    readField_append (by rfl) (by rfl), unknown]

/-! ### Layers as documents -/

/-- The entry of a key, if it is given a value. -/
def entryOf (key : Scalar) (given : Option Tree) : Entries :=
  given.toList.map fun value => (key, value)

theorem get?_entryOf (key other : Scalar) (given : Option Tree) :
    OrderedMap.get? (entryOf key given) other = if key = other then given else none := by
  cases given with
  | none => simp [entryOf]
  | some value => simp [entryOf, OrderedMap.get?_cons]

theorem keys_entryOf_sublist (key : Scalar) (given : Option Tree) :
    (OrderedMap.keys (entryOf key given)).Sublist [key] := by
  cases given <;> simp [entryOf]

/-- The environment gives an entry for each setting that has a value there. -/
theorem environmentEntry_eq {environment : List (String × String)} {setting : String}
    {read : (name text : String) → Except ConfigProblem Tree}
    (reads : ∀ text, read (variableName setting) text = readVariable setting text) :
    environmentEntry environment setting read =
      (variableFor environment setting).map (entryOf (.str setting)) := by
  unfold environmentEntry variableFor
  cases OrderedMap.get? environment (variableName setting) with
  | none => rfl
  | some text =>
    simp only [reads]
    split
    · rfl
    · cases readVariable setting text <;> rfl

theorem readVariable_filterDepth (text : String) :
    readVariable filterDepthName text = depthOfText (variableName filterDepthName) text :=
  if_pos rfl

theorem readVariable_jsonMediaTypes (text : String) :
    readVariable jsonMediaTypesName text = .ok (mediaTypesOfText text) :=
  (if_neg (by decide)).trans (if_pos rfl)

theorem readVariable_boolean {setting : String} (boolean : setting = strictSchemasName ∨ setting = deriveRequiredName)
    (text : String) : readVariable setting text = booleanOfWord (variableName setting) text := by
  obtain rfl | rfl := boolean
  · exact (if_neg (by decide)).trans (if_neg (by decide))
  · exact (if_neg (by decide)).trans (if_neg (by decide))

/-- The environment as a document has an entry for each setting that has a value there. -/
theorem ofEnvironment_eq (environment : List (String × String)) :
    ofEnvironment environment = do
      let depth ← variableFor environment filterDepthName
      let strict ← variableFor environment strictSchemasName
      let derive ← variableFor environment deriveRequiredName
      let types ← variableFor environment jsonMediaTypesName
      return entryOf filterDepthName depth ++ entryOf strictSchemasName strict ++
        entryOf deriveRequiredName derive ++ entryOf jsonMediaTypesName types := by
  unfold ofEnvironment
  rw [environmentEntry_eq fun text => (readVariable_filterDepth text).symm,
    environmentEntry_eq fun text => (readVariable_boolean (.inl rfl) text).symm,
    environmentEntry_eq fun text => (readVariable_boolean (.inr rfl) text).symm,
    environmentEntry_eq fun text => (readVariable_jsonMediaTypes text).symm]
  cases variableFor environment filterDepthName with
  | error problem => rfl
  | ok depth =>
    cases variableFor environment strictSchemasName with
    | error problem => rfl
    | ok strict =>
      cases variableFor environment deriveRequiredName with
      | error problem => rfl
      | ok derive => cases variableFor environment jsonMediaTypesName <;> rfl

/-- What an environment gives that can be read are the settings that have a value there. -/
theorem ofEnvironment_ok {environment : List (String × String)} {given : Entries}
    (reads : ofEnvironment environment = .ok given) :
    (∀ setting ∈ names, variableFor environment setting = .ok (OrderedMap.get? given (.str setting))) ∧
      (OrderedMap.keys given).Sublist (names.map Scalar.str) := by
  rw [ofEnvironment_eq] at reads
  simp only [bind_ok_iff] at reads
  obtain ⟨depth, depthGiven, strict, strictGiven, derive, deriveGiven, types, typesGiven, last⟩ := reads
  cases last
  constructor
  · intro setting known
    simp only [names, List.mem_cons, List.not_mem_nil, or_false] at known
    simp only [OrderedMap.get?_append, get?_entryOf, Scalar.str.injEq]
    obtain rfl | rfl | rfl | rfl := known
    · rw [depthGiven]
      simp [filterDepthName, strictSchemasName, deriveRequiredName, jsonMediaTypesName]
    · rw [strictGiven]
      simp [filterDepthName, strictSchemasName, deriveRequiredName, jsonMediaTypesName]
    · rw [deriveGiven]
      simp [filterDepthName, strictSchemasName, deriveRequiredName, jsonMediaTypesName]
    · rw [typesGiven]
      simp [filterDepthName, strictSchemasName, deriveRequiredName, jsonMediaTypesName]
  · simp only [OrderedMap.keys_append]
    exact (((keys_entryOf_sublist _ _).append (keys_entryOf_sublist _ _)).append
      (keys_entryOf_sublist _ _)).append (keys_entryOf_sublist _ _)

/-- What is asked for as a document has an entry for each key that is given a value. -/
theorem explicitEntry_eq (key : Scalar) (value : Tree) :
    explicitEntry key value = (askedValue key value).map (entryOf key) := by
  cases value with
  | scalar scalar =>
    cases scalar with
    | str text =>
      cases key with
      | str name =>
        show (if name = filterDepthName then (depthOfText name text).map fun depth => [(Scalar.str name, depth)]
          else .ok [(.str name, .str text)]) = Except.map (entryOf (.str name))
            (if Scalar.str name = .str filterDepthName then (depthOfText filterDepthName text).map some
              else .ok (some (.str text)))
        by_cases depth : name = filterDepthName
        · subst depth
          rw [if_pos rfl, if_pos rfl]
          cases depthOfText filterDepthName text with
          | error problem => rfl
          | ok depth => rfl
        · rw [if_neg depth, if_neg fun same => depth (Scalar.str.inj same)]
          rfl
      | _ => rfl
    | null => cases key <;> rfl
    | _ => cases key <;> rfl
  | _ => cases key <;> rfl

/-- Only the absent value comes to nothing. -/
theorem askedValue_eq_none_iff {key : Scalar} {value : Tree} {given : Option Tree}
    (reads : askedValue key value = .ok given) : given = none ↔ value = .null := by
  unfold askedValue at reads
  split at reads
  · cases reads
    exact iff_of_true rfl rfl
  · split at reads
    · obtain ⟨depth, _, rfl⟩ := map_ok_iff.mp reads
      exact iff_of_false nofun nofun
    · cases reads
      exact iff_of_false nofun nofun
  · rename_i notNull _
    cases reads
    exact iff_of_false nofun notNull

/-- Only a text for the depth comes to a problem. -/
theorem key_of_askedValue_error {key : Scalar} {value : Tree} {problem : ConfigProblem}
    (fails : askedValue key value = .error problem) : key = .str filterDepthName := by
  unfold askedValue at fails
  split at fails
  · cases fails
  · split at fails
    · rename_i named
      exact named
    · cases fails
  · cases fails

/-- **What is asked for as a document** holds what is asked for each setting, under the keys with a value. -/
theorem explicit_ok {overrides asked : Entries} (distinct : OrderedMap.Distinct overrides)
    (reads : explicit overrides = .ok asked) :
    (∀ setting, askedFor overrides setting = .ok (OrderedMap.get? asked (.str setting))) ∧
      OrderedMap.keys asked = OrderedMap.keys (overrides.filter fun entry => entry.2 ≠ .null) := by
  induction overrides generalizing asked with
  | nil =>
    cases reads
    exact ⟨fun _ => rfl, rfl⟩
  | cons entry rest ih =>
    obtain ⟨key, value⟩ := entry
    obtain ⟨fresh, distinctRest⟩ := List.nodup_cons.mp distinct
    simp only [explicit, explicitEntry_eq, bind_ok_iff, map_ok_iff] at reads
    obtain ⟨_, ⟨given, valueReads, rfl⟩, others, othersRead, last⟩ := reads
    cases last
    obtain ⟨values, keys⟩ := ih distinctRest othersRead
    constructor
    · intro setting
      rw [OrderedMap.get?_append, get?_entryOf, askedFor, OrderedMap.get?_cons]
      by_cases here : key = .str setting
      · subst here
        have absent : OrderedMap.get? others (.str setting) = none := by
          rw [OrderedMap.get?_eq_none_iff, keys]
          exact fun member => fresh (((List.filter_sublist).map _).subset member)
        simp [valueReads, absent]
      · simpa [here, askedFor] using values setting
    · have given_iff := askedValue_eq_none_iff valueReads
      rw [OrderedMap.keys_append, keys]
      cases given with
      | none => simp [entryOf, given_iff.mp rfl]
      | some _ =>
        have notNull : value ≠ .null := by
          intro isNull
          cases given_iff.mpr isNull
        simp [entryOf, notNull]

/-- What is asked for fails on the depth only. -/
theorem explicit_error {overrides : Entries} {problem : ConfigProblem} (distinct : OrderedMap.Distinct overrides)
    (fails : explicit overrides = .error problem) : askedFor overrides filterDepthName = .error problem := by
  induction overrides with
  | nil => cases fails
  | cons entry rest ih =>
    obtain ⟨key, value⟩ := entry
    obtain ⟨fresh, distinctRest⟩ := List.nodup_cons.mp distinct
    simp only [explicit, explicitEntry_eq, bind_error_iff, map_error_iff] at fails
    rw [askedFor, OrderedMap.get?_cons]
    obtain valueFails | ⟨_, _, othersFail | ⟨_, _, last⟩⟩ := fails
    · have named := key_of_askedValue_error valueFails
      subst named
      simpa using valueFails
    · have later := ih distinctRest othersFail
      have differ : key ≠ .str filterDepthName := by
        rintro rfl
        have absent := (OrderedMap.get?_eq_none_iff rest _).mpr fresh
        rw [askedFor, absent] at later
        cases later
      rwa [if_neg differ]
    · cases last

/-! ### Layers over each other -/

/-- A document holds the settings of three layers over the defaults, field by field. Besides them it has the unknown
names of the file and those that are asked for. -/
structure IsLayered (file : Entries) (environment : List (String × String)) (overrides merged : Entries) :
    Prop where
  field : ∀ setting ∈ names,
    layered file environment overrides setting = .ok (OrderedMap.get? merged (.str setting))
  unknown : unknownNames merged = unknownNames file ++
    unknownNames (overrides.filter fun entry => entry.2 ≠ .null ∧ entry.1 ∉ OrderedMap.keys file)

/-- The settings of layers are there only where a text for the depth stands for one. -/
theorem IsLayered.not_problem {file overrides merged : Entries} {environment : List (String × String)}
    (isLayered : IsLayered file environment overrides merged) {problem : ConfigProblem} :
    askedFor overrides filterDepthName ≠ .error problem := by
  intro fails
  have field := isLayered.field filterDepthName List.mem_cons_self
  rw [layered, fails] at field
  cases field

/-- The settings that validation makes of a document. -/
def validated (merged : Entries) : Except Failure Settings :=
  (ofTree (.map merged)).mapError fun issues => .config (.invalid issues)

theorem validated_congr {first second : Entries}
    (same : ∀ setting ∈ names,
      OrderedMap.get? first (.str setting) = OrderedMap.get? second (.str setting))
    (unknown : unknownNames first = unknownNames second) : validated first = validated second :=
  congrArg (Except.mapError fun issues => Failure.config (.invalid issues)) (ofEntries_congr same unknown)

theorem validated_append_default (entries : Entries) :
    validated (entries ++ defaultEntries) = validated entries :=
  congrArg (Except.mapError fun issues => Failure.config (.invalid issues)) (ofEntries_append_default entries)

/-- It only matters which of the entries with unknown names are kept. -/
theorem unknownNames_filter_congr {entries : Entries} {kept others : Scalar × Tree → Bool}
    (same : ∀ entry ∈ entries, nameIssue? entry.1 ≠ none → kept entry = others entry) :
    unknownNames (entries.filter kept) = unknownNames (entries.filter others) := by
  unfold unknownNames OrderedMap.keys
  rw [List.filterMap_map, List.filterMap_map, List.filterMap_filter, List.filterMap_filter]
  refine List.filterMap_congr fun entry member => ?_
  by_cases known : nameIssue? entry.1 = none
  · simp [known]
  · rw [same entry member known]

theorem nameIssue?_of_mem_names {key : Scalar} (known : key ∈ names.map Scalar.str) : nameIssue? key = none := by
  obtain ⟨setting, member, rfl⟩ := List.mem_map.mp known
  exact nameIssue?_of_mem member

/-- The unknown names of settings over others. Those of the environment are known. -/
theorem unknownNames_merge {file given asked overrides : Entries}
    (known : (OrderedMap.keys given).Sublist (names.map Scalar.str))
    (distinct : OrderedMap.Distinct asked)
    (keys : OrderedMap.keys asked = OrderedMap.keys (overrides.filter fun entry => entry.2 ≠ .null)) :
    unknownNames (OrderedMap.merge (OrderedMap.merge file given) asked) = unknownNames file ++
      unknownNames (overrides.filter fun entry => entry.2 ≠ .null ∧ entry.1 ∉ OrderedMap.keys file) := by
  have distinctGiven : OrderedMap.Distinct given := known.nodup (by decide)
  have noIssue :
      ((OrderedMap.keys given).filter fun key => key ∉ OrderedMap.keys file).filterMap nameIssue? = [] := by
    rw [List.filterMap_eq_nil_iff]
    exact fun key member => nameIssue?_of_mem_names (known.subset (List.mem_of_mem_filter member))
  have base : unknownNames (OrderedMap.merge file given) = unknownNames file := by
    unfold unknownNames
    rw [OrderedMap.keys_merge _ distinctGiven, List.filterMap_append, noIssue, List.append_nil]
  have fresh : (OrderedMap.keys asked).filter (fun key => key ∉ OrderedMap.keys (OrderedMap.merge file given)) =
      OrderedMap.keys (overrides.filter fun entry =>
        entry.1 ∉ OrderedMap.keys (OrderedMap.merge file given) && entry.2 ≠ .null) := by
    rw [keys, ← OrderedMap.keys_filter, List.filter_filter]
  calc unknownNames (OrderedMap.merge (OrderedMap.merge file given) asked)
    _ = unknownNames (OrderedMap.merge file given) ++ unknownNames (overrides.filter fun entry =>
        entry.1 ∉ OrderedMap.keys (OrderedMap.merge file given) && entry.2 ≠ .null) := by
      unfold unknownNames
      rw [OrderedMap.keys_merge _ distinct, List.filterMap_append, fresh]
    _ = unknownNames file ++ unknownNames (overrides.filter fun entry =>
        entry.2 ≠ .null ∧ entry.1 ∉ OrderedMap.keys file) := by
      rw [base]
      congr 1
      refine unknownNames_filter_congr fun entry _ issue => ?_
      have notGiven : entry.1 ∉ OrderedMap.keys given := fun member =>
        issue (nameIssue?_of_mem_names (known.subset member))
      simp [OrderedMap.mem_keys_merge, notGiven, Bool.and_comm]

/-- **What becomes of three layers**: a text for the depth that is none fails, and otherwise the settings of the layers,
field by field, are validated. -/
theorem ofLayers_outcome (file : Entries) {overrides given : Entries} {environment : List (String × String)}
    (parses : ofEnvironment environment = .ok given) (distinct : OrderedMap.Distinct overrides) :
    (∃ problem, askedFor overrides filterDepthName = .error problem ∧
      ofLayers file environment overrides = .error (.config problem)) ∨
      ∃ merged, IsLayered file environment overrides merged ∧
        ofLayers file environment overrides = validated merged := by
  unfold ofLayers
  rw [parses]
  cases reads : explicit overrides with
  | error problem => exact .inl ⟨problem, explicit_error distinct reads, rfl⟩
  | ok asked =>
    obtain ⟨found, known⟩ := ofEnvironment_ok parses
    obtain ⟨values, keys⟩ := explicit_ok distinct reads
    have distinctGiven : OrderedMap.Distinct given := known.nodup (by decide)
    have distinctAsked : OrderedMap.Distinct asked := by
      unfold OrderedMap.Distinct
      rw [keys]
      exact (List.filter_sublist.map _).nodup distinct
    refine .inr ⟨OrderedMap.merge (OrderedMap.merge file given) asked ++ defaultEntries, ⟨?_, ?_⟩, ?_⟩
    · intro setting member
      rw [layered, values, found setting member, OrderedMap.get?_append,
        OrderedMap.get?_merge_of_distinct _ distinctAsked, OrderedMap.get?_merge_of_distinct _ distinctGiven]
      cases OrderedMap.get? asked (.str setting) <;> cases OrderedMap.get? given (.str setting) <;>
        cases OrderedMap.get? file (.str setting) <;> rfl
    · rw [unknownNames_append, unknownNames_merge known distinctAsked keys]
      exact List.append_nil _
    · rw [validated_append_default]
      rfl

/-! ### Layers beneath others -/

/-- Whether a setting is asked for. -/
def isAsked (overrides : Entries) (setting : String) : Bool :=
  (OrderedMap.get? overrides (.str setting)).any (· ≠ .null)

/-- Whether the environment sets a setting. -/
def isSet (environment : List (String × String)) (setting : String) : Bool :=
  (OrderedMap.get? environment (variableName setting)).any fun text => !text.isEmpty

/-- Whether a key of a file is that of a setting that a layer above the file gives. -/
def isCovered (environment : List (String × String)) (overrides : Entries) (key : Scalar) : Bool :=
  names.any fun setting => key = .str setting && (isAsked overrides setting || isSet environment setting)

/-- The entries of a file without those of the settings that a layer above it gives. -/
def uncovered (environment : List (String × String)) (overrides file : Entries) : Entries :=
  file.filter fun entry => !isCovered environment overrides entry.1

/-- **Lower layers that agree beside what is set above them.** The variables of settings that are asked for may differ,
and so may the entries of settings that are asked for or set by the environment: in their values, in whether there are
any and in where they stand. -/
structure AgreeBeneath (overrides : Entries) (environment otherEnvironment : List (String × String))
    (file otherFile : Entries) : Prop where
  environments : ∀ setting ∈ names, isAsked overrides setting = false →
    variableFor environment setting = variableFor otherEnvironment setting
  files : uncovered environment overrides file = uncovered otherEnvironment overrides otherFile

theorem isAsked_of_none {overrides : Entries} {setting : String} (none : askedFor overrides setting = .ok none) :
    isAsked overrides setting = false := by
  unfold askedFor at none
  unfold isAsked
  split at none
  · rename_i absent
    rw [absent]
    rfl
  · rename_i value found
    rw [found, (askedValue_eq_none_iff none).mp rfl]
    rfl

theorem isSet_of_none {environment : List (String × String)} {setting : String}
    (none : variableFor environment setting = .ok none) : isSet environment setting = false := by
  unfold variableFor at none
  unfold isSet
  split at none
  · rename_i absent
    rw [absent]
    rfl
  · rename_i text found
    split at none
    · rename_i empty
      simp [found, empty]
    · obtain ⟨value, _, isNone⟩ := map_ok_iff.mp none
      cases isNone

/-- A setting that no layer above the file gives is found in what is left of the file. -/
theorem get?_uncovered {environment : List (String × String)} {overrides file : Entries} {setting : String}
    (notAsked : isAsked overrides setting = false) (notSet : isSet environment setting = false) :
    OrderedMap.get? (uncovered environment overrides file) (.str setting) =
      OrderedMap.get? file (.str setting) := by
  have notCovered : isCovered environment overrides (.str setting) = false := by
    refine List.any_eq_false.mpr fun other _ => ?_
    simp only [Bool.and_eq_true, decide_eq_true_eq, Scalar.str.injEq, not_and]
    rintro rfl
    simp [notAsked, notSet]
  exact OrderedMap.get?_filter file (fun key => !isCovered environment overrides key)
    (congrArg Bool.not notCovered)

/-- A key with an unknown name is left in the file. -/
theorem isCovered_of_issue {environment : List (String × String)} {overrides : Entries} {key : Scalar}
    (issue : nameIssue? key ≠ none) : isCovered environment overrides key = false := by
  refine List.any_eq_false.mpr fun setting member => ?_
  simp only [Bool.and_eq_true, decide_eq_true_eq, not_and]
  rintro rfl
  exact absurd (nameIssue?_of_mem member) issue

/-- The unknown names of a file are those of what is left of it. -/
theorem unknownNames_uncovered (environment : List (String × String)) (overrides file : Entries) :
    unknownNames (uncovered environment overrides file) = unknownNames file := by
  calc unknownNames (uncovered environment overrides file)
    _ = unknownNames (file.filter fun _ => true) :=
      unknownNames_filter_congr fun entry _ issue => by rw [isCovered_of_issue issue]; rfl
    _ = unknownNames file := by rw [List.filter_true]

/-- The unknown names of layers are those of what is left of the file and those that are asked for beside it. -/
theorem IsLayered.unknown_uncovered {file overrides merged : Entries} {environment : List (String × String)}
    (isLayered : IsLayered file environment overrides merged) :
    unknownNames merged = unknownNames (uncovered environment overrides file) ++
      unknownNames (overrides.filter fun entry =>
        entry.2 ≠ .null ∧ entry.1 ∉ OrderedMap.keys (uncovered environment overrides file)) := by
  rw [isLayered.unknown, unknownNames_uncovered]
  congr 1
  refine unknownNames_filter_congr fun entry _ issue => ?_
  have same : entry.1 ∈ OrderedMap.keys (uncovered environment overrides file) ↔
      entry.1 ∈ OrderedMap.keys file := by
    rw [uncovered, OrderedMap.keys_filter file fun key => !isCovered environment overrides key, List.mem_filter,
      isCovered_of_issue issue]
    exact and_iff_left rfl
  simp [same]

/-- Agreeing lower layers give the same for each setting, if nothing fails. -/
theorem AgreeBeneath.layered_eq {overrides file otherFile given otherGiven : Entries}
    {environment otherEnvironment : List (String × String)}
    (agree : AgreeBeneath overrides environment otherEnvironment file otherFile)
    (parses : ofEnvironment environment = .ok given) (otherParses : ofEnvironment otherEnvironment = .ok otherGiven)
    {setting : String} (member : setting ∈ names) :
    layered file environment overrides setting = layered otherFile otherEnvironment overrides setting := by
  unfold layered
  cases reads : askedFor overrides setting with
  | error problem => rfl
  | ok asked =>
    have variableValue := (ofEnvironment_ok parses).1 setting member
    have otherValue := (ofEnvironment_ok otherParses).1 setting member
    cases asked with
    | some value =>
      rw [variableValue, otherValue]
      rfl
    | none =>
      have notAsked := isAsked_of_none reads
      have sameVariable := agree.environments setting member notAsked
      rw [sameVariable]
      cases variableReads : variableFor otherEnvironment setting with
      | error problem => rfl
      | ok given =>
        cases given with
        | some value => rfl
        | none =>
          have sameEntry := congrArg (OrderedMap.get? · (.str setting)) agree.files
          simp only [get?_uncovered notAsked (isSet_of_none (sameVariable.trans variableReads)),
            get?_uncovered notAsked (isSet_of_none variableReads)] at sameEntry
          rw [sameEntry]

/-- **Lower layers that agree beside what is set above them have the same outcome.** -/
theorem AgreeBeneath.ofLayers_eq {overrides file otherFile given otherGiven : Entries}
    {environment otherEnvironment : List (String × String)}
    (agree : AgreeBeneath overrides environment otherEnvironment file otherFile)
    (parses : ofEnvironment environment = .ok given) (otherParses : ofEnvironment otherEnvironment = .ok otherGiven)
    (distinct : OrderedMap.Distinct overrides) :
    ofLayers file environment overrides = ofLayers otherFile otherEnvironment overrides := by
  obtain ⟨problem, fails, outcome⟩ | ⟨merged, isLayered, outcome⟩ := ofLayers_outcome file parses distinct <;>
    obtain ⟨otherProblem, otherFails, otherOutcome⟩ | ⟨otherMerged, otherLayered, otherOutcome⟩ :=
      ofLayers_outcome otherFile otherParses distinct
  · rw [outcome, otherOutcome, Except.error.inj (fails.symm.trans otherFails)]
  · exact absurd fails otherLayered.not_problem
  · exact absurd otherFails isLayered.not_problem
  · rw [outcome, otherOutcome]
    refine validated_congr (fun setting member => ?_) ?_
    · have same := agree.layered_eq parses otherParses member
      rw [isLayered.field setting member, otherLayered.field setting member] at same
      exact Except.ok.inj same
    · rw [isLayered.unknown_uncovered, otherLayered.unknown_uncovered, agree.files]

/-- **The settings of a command are those of its layers, field by field.** They are what validation makes of the first
value that each setting is given, unless a text is asked for as the depth that is none. So they are the same, or fail in
the same way, for a project and an environment that differ beneath what is set above them. -/
theorem resolve_layered {world : World} {path : Option String} {file overrides given : Entries}
    (project : ofProject world path = .ok file) (parses : ofEnvironment world.environment = .ok given)
    (distinct : OrderedMap.Distinct overrides) :
    ((∃ problem, askedFor overrides filterDepthName = .error problem ∧
      resolve world path overrides = .error (.config problem)) ∨
      ∃ merged, IsLayered file world.environment overrides merged ∧
        resolve world path overrides = validated merged) ∧
    ∀ {other : World} {otherPath : Option String} {otherFile otherGiven : Entries},
      ofProject other otherPath = .ok otherFile → ofEnvironment other.environment = .ok otherGiven →
      AgreeBeneath overrides world.environment other.environment file otherFile →
      resolve other otherPath overrides = resolve world path overrides := by
  have resolved : resolve world path overrides = ofLayers file world.environment overrides := by
    unfold resolve
    rw [project]
    rfl
  rw [resolved]
  refine ⟨ofLayers_outcome file parses distinct, ?_⟩
  intro other otherPath otherFile otherGiven otherProject otherParses agree
  have otherResolved : resolve other otherPath overrides =
      ofLayers otherFile other.environment overrides := by
    unfold resolve
    rw [otherProject]
    rfl
  rw [otherResolved]
  exact (agree.ofLayers_eq parses otherParses distinct).symm

/-- What is around a command that finds a project file with a text, and an environment. -/
def projectWorld (file : String) (environment : List (String × String)) : World :=
  { World.empty with lookup := fun _ => .file file.toUTF8, environment := environment }

/-- A project file whose depth and whose choice to refuse schemas are no settings, beneath an environment. -/
def spoiltWorld : World :=
  projectWorld "\x7b\"filter_depth\": 0, \"derive_required\": 1, \"strict_schemas\": []\x7d"
    [("SPECROUTES_FILTER_DEPTH", "3"), ("SPECROUTES_STRICT_SCHEMAS", "No"), ("SPECROUTES_JSON_MEDIA_TYPES", "")]

/-- The same without the values that are no settings, and with another depth in the environment. -/
def plainWorld : World :=
  projectWorld "\x7b\"derive_required\": 1\x7d"
    [("SPECROUTES_STRICT_SCHEMAS", "No"), ("SPECROUTES_FILTER_DEPTH", "all")]

/-- A depth that is asked for as a text, and media types that are not. -/
def askedDepth : Entries :=
  [(.str "filter_depth", .str " 2 "), (.str "json_media_types", .null)]

/-- Neither the values that are no settings nor the depths of the environment are looked at. -/
theorem resolve_layered_of_spoiltWorld :
    resolve plainWorld none askedDepth = resolve spoiltWorld none askedDepth ∧
      (resolve plainWorld none askedDepth).map toTree = .ok (.map [
        (.str "filter_depth", .int 2), (.str "strict_schemas", .bool false), (.str "derive_required", .bool true),
        (.str "json_media_types", .list [.str "application/json"])]) := by
  have spoilt : ofProject spoiltWorld none = .ok
      [(.str "filter_depth", .int 0), (.str "derive_required", .int 1), (.str "strict_schemas", .list [])] := by
    decide +kernel
  have plain : ofProject plainWorld none = .ok [(.str "derive_required", .int 1)] := by
    decide +kernel
  have spoiltEnvironment : ofEnvironment spoiltWorld.environment = .ok
      [(.str "filter_depth", .int 3), (.str "strict_schemas", .bool false)] := by
    decide +kernel
  have plainEnvironment : ofEnvironment plainWorld.environment = .ok
      [(.str "filter_depth", .null), (.str "strict_schemas", .bool false)] := by
    decide +kernel
  have agree : AgreeBeneath askedDepth spoiltWorld.environment plainWorld.environment
      [(.str "filter_depth", .int 0), (.str "derive_required", .int 1), (.str "strict_schemas", .list [])]
      [(.str "derive_required", .int 1)] :=
    ⟨by decide +kernel, by decide +kernel⟩
  have distinct : OrderedMap.Distinct askedDepth := by
    unfold OrderedMap.Distinct
    decide
  exact ⟨(resolve_layered spoilt spoiltEnvironment distinct).2 plain plainEnvironment agree, by decide +kernel⟩

end RouteCompiler.Settings
