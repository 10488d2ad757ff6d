/-
**What a list of declarations comes to.**

Parameters are declared one after the other, and a parameter may be declared again. What counts in the end are the
first and the last declaration of a name in a part of the request: the first one gives the name its place among the
properties, the last one gives it its schema and says whether it is required. Declarations in other parts have no
say in it. Since the parameters of a path come after those of an operation, they replace them.

* `Declares`, `Parameter.ofTree_ok_iff`: what a tree declares;
* `last?`, `requiredNames`: the last declaration of a name, and what it makes required;
* `ParameterGroup.ofList`: the parameters of one part, as they are after its last declaration;
* `keys_groupParameters`, `get?_groupParameters`, `mem_groupParameters`: the parts.
-/

import Mathlib.Data.List.Dedup
import Mathlib.Data.List.Induction
import RouteCompiler.Proofs.Computation
import RouteCompiler.Route.Parameter

namespace RouteCompiler

/-! ### Names without repetition -/

section Repetition

variable {α : Type} [DecidableEq α]

/-- A name that is added is a new one at the end, or has appeared before. -/
theorem eraseDups_concat (names : List α) (name : α) :
    (names ++ [name]).eraseDups = if name ∈ names then names.eraseDups else names.eraseDups ++ [name] := by
  rw [List.eraseDups_append]
  by_cases known : name ∈ names
  · simp [List.removeAll, known]
  · simp [List.removeAll, known, List.eraseDups_cons]

theorem nodup_eraseDups (names : List α) : names.eraseDups.Nodup := by
  induction names using List.reverseRecOn with
  | nil => exact .nil
  | append_singleton names name ih =>
    rw [eraseDups_concat]
    split
    · exact ih
    · rename_i fresh
      have apart : names.eraseDups.Disjoint [name] :=
        List.disjoint_singleton.mpr fun known => fresh (List.mem_eraseDups.mp known)
      exact ih.append (List.nodup_singleton name) apart

/-- A name that is added is the last one, wherever it was before. -/
theorem dedup_concat (names : List α) (name : α) : (names ++ [name]).dedup = names.dedup.erase name ++ [name] := by
  induction names with
  | nil => rfl
  | cons first rest ih =>
    rw [List.cons_append]
    by_cases again : first ∈ rest
    · rw [List.dedup_cons_of_mem again, List.dedup_cons_of_mem (List.mem_append_left _ again), ih]
    · rw [List.dedup_cons_of_notMem again]
      by_cases same : first = name
      · subst same
        have absent : first ∉ rest.dedup := fun member => again (List.mem_dedup.mp member)
        rw [List.dedup_cons_of_mem (List.mem_append_right _ List.mem_cons_self), ih, List.erase_of_not_mem absent,
          List.erase_cons_head]
      · have fresh : first ∉ rest ++ [name] := by
          rw [List.mem_append, List.mem_singleton, not_or]
          exact ⟨again, same⟩
        rw [List.dedup_cons_of_notMem fresh, ih, List.erase_cons_tail (by simpa using same), List.cons_append]

end Repetition

/-! ### Declarations -/

/-- What a tree declares: a parameter with a name that is not empty, in a part of the request. Its schema is that of
the tree, or the empty one if that does not count as given. A parameter of the path is required whatever the tree
says. -/
structure Declares (tree : Tree) (parameter : Parameter) : Prop where
  name : tree.get? "name" = some (.str parameter.name)
  notEmpty : parameter.name.isEmpty = false
  part : tree.get? "in" = some (.str parameter.part.location)
  schema : parameter.schema = if (tree.field "schema").isTruthy then tree.field "schema" else .map []
  isRequired : parameter.isRequired = true ↔
    parameter.part = .path ∨ tree.get? "required" = some (.bool true)

theorem RequestPart.ofTree_ok_iff {value : Tree} {part : RequestPart} :
    ofTree value = .ok part ↔ value = .str part.location := by
  unfold ofTree
  constructor
  · intro read
    split at read
    · rename_i other found
      cases read
      simpa using List.find?_some found
    · cases spelled : value.spelled with
      | ok location =>
        rw [spelled] at read
        cases read
      | error failure =>
        rw [spelled] at read
        cases read
  · rintro rfl
    cases part <;> rfl

namespace Parameter

theorem partOf_ok_iff {name : String} {entries : Entries} {part : RequestPart} :
    partOf name entries = .ok part ↔ OrderedMap.get? entries "in" = some (.str part.location) := by
  have read : partOf name entries = .ok part ↔
      RequestPart.ofTree ((OrderedMap.get? entries "in").getD (.str "")) = .ok part := by
    unfold partOf
    split
    · rename_i failed
      rw [failed]
      constructor
      · intro same
        cases same
      · intro same
        cases same
    · rfl
  rw [read, RequestPart.ofTree_ok_iff]
  cases OrderedMap.get? entries "in" with
  | none =>
    refine iff_of_false ?_ (Option.some_ne_none _).symm
    cases part <;> decide
  | some value => rw [Option.getD_some, Option.some.injEq]

theorem nameOf_ok_iff {entries : Entries} {name : String} :
    nameOf entries = .ok name ↔ OrderedMap.get? entries "name" = some (.str name) ∧ name.isEmpty = false := by
  unfold nameOf
  split
  · rename_i text found
    rw [found]
    split
    · rename_i empty
      refine iff_of_false (by simp) ?_
      rintro ⟨same, notEmpty⟩
      cases same
      simp [empty] at notEmpty
    · rename_i notEmpty
      constructor
      · intro same
        cases same
        exact ⟨rfl, Bool.eq_false_iff.mpr notEmpty⟩
      · rintro ⟨same, _⟩
        cases same
        rfl
  · rename_i noText
    exact iff_of_false (by simp) fun named => noText name named.1

/-- **A declaration is read as what it declares.** -/
theorem ofTree_ok_iff {tree : Tree} {parameter : Parameter} :
    ofTree tree = .ok parameter ↔ Declares tree parameter := by
  cases tree with
  | map entries =>
    simp only [ofTree, bind_ok_iff, nameOf_ok_iff, partOf_ok_iff]
    constructor
    · rintro ⟨name, ⟨named, notEmpty⟩, part, inPart, same⟩
      cases same
      exact ⟨named, notEmpty, inPart, rfl, by simp⟩
    · rintro ⟨named, notEmpty, inPart, schema, isRequired⟩
      refine ⟨_, ⟨named, notEmpty⟩, _, inPart, ?_⟩
      obtain ⟨part, name, _, flag⟩ := parameter
      cases schema
      have flagged : (decide (part = .path) || decide (OrderedMap.get? entries "required" = some (.bool true))) =
          flag := by
        rw [Bool.eq_iff_iff, isRequired, Bool.or_eq_true_iff, decide_eq_true_iff, decide_eq_true_iff]
        rfl
      rw [flagged]
      rfl
  | _ =>
    refine iff_of_false (fun same => ?_) fun declares => ?_
    · cases same
    · cases declares.name

end Parameter

/-! ### The last declaration -/

/-- Of two lists, the last item of some kind is in the second one if it has any. -/
theorem findRev?_append {α : Type} (kind : α → Bool) (first second : List α) :
    (first ++ second).findRev? kind = (second.findRev? kind).or (first.findRev? kind) := by
  induction first with
  | nil => rw [List.nil_append, List.findRev?, Option.or_none]
  | cons item rest ih =>
    rw [List.cons_append, List.findRev?, ih, List.findRev?]
    cases second.findRev? kind <;> rfl

/-- The names that are declared, as often as they are. -/
def namesOf (declared : List Parameter) : List String :=
  declared.map (·.name)

theorem namesOf_concat (declared : List Parameter) (parameter : Parameter) :
    namesOf (declared ++ [parameter]) = namesOf declared ++ [parameter.name] :=
  List.map_append

/-- The last declaration of a name. -/
def last? (name : String) (declared : List Parameter) : Option Parameter :=
  declared.findRev? fun parameter => parameter.name = name

theorem last?_append (name : String) (first second : List Parameter) :
    last? name (first ++ second) = (last? name second).or (last? name first) :=
  findRev?_append _ first second

theorem last?_concat (name : String) (declared : List Parameter) (parameter : Parameter) :
    last? name (declared ++ [parameter]) = if parameter.name = name then some parameter else last? name declared := by
  rw [last?_append, last?, List.findRev?, List.findRev?]
  by_cases same : parameter.name = name <;> simp [same]

/-- It is a declaration of the name. -/
theorem mem_of_last? {name : String} {declared : List Parameter} {parameter : Parameter}
    (isLast : last? name declared = some parameter) : parameter ∈ declared := by
  induction declared using List.reverseRecOn with
  | nil => cases isLast
  | append_singleton declared later ih =>
    rw [last?_concat] at isLast
    split at isLast
    · cases isLast
      exact List.mem_append_right _ List.mem_cons_self
    · exact List.mem_append_left _ (ih isLast)

/-- A name that is declared has a last declaration. -/
theorem isSome_last?_iff {name : String} {declared : List Parameter} :
    (last? name declared).isSome = true ↔ name ∈ namesOf declared := by
  induction declared using List.reverseRecOn with
  | nil => exact iff_of_false nofun nofun
  | append_singleton declared parameter ih =>
    rw [last?_concat, namesOf_concat, List.mem_append, List.mem_singleton]
    split
    · rename_i same
      exact iff_of_true rfl (Or.inr same.symm)
    · rename_i differs
      rw [ih, or_iff_left (Ne.symm differs)]

/-- The names whose last declaration is required, in the order of their last declarations. -/
def requiredNames (declared : List Parameter) : List String :=
  (namesOf declared).dedup.filter fun name => (last? name declared).any (·.isRequired)

theorem mem_requiredNames {declared : List Parameter} {name : String} :
    name ∈ requiredNames declared ↔
      ∃ parameter, last? name declared = some parameter ∧ parameter.isRequired = true := by
  rw [requiredNames, List.mem_filter, List.mem_dedup, Option.any_eq_true, and_iff_right_of_imp]
  rintro ⟨parameter, isLast, _⟩
  rw [← isSome_last?_iff, isLast]
  rfl

theorem nodup_requiredNames (declared : List Parameter) : (requiredNames declared).Nodup :=
  (List.nodup_dedup _).filter _

/-- The declarations in a part of the request. -/
def inPart (part : RequestPart) (declared : List Parameter) : List Parameter :=
  declared.filter fun parameter => parameter.part = part

theorem inPart_append (part : RequestPart) (first second : List Parameter) :
    inPart part (first ++ second) = inPart part first ++ inPart part second :=
  List.filter_append _ _

/-! ### One part -/

namespace ParameterGroup

/-- The parameters of a part after its declarations. -/
def ofList (declared : List Parameter) : ParameterGroup :=
  declared.foldl declare empty

theorem ofList_concat (declared : List Parameter) (parameter : Parameter) :
    ofList (declared ++ [parameter]) = (ofList declared).declare parameter := by
  rw [ofList, List.foldl_append]
  rfl

/-- **Names have their places by their first declarations.** -/
theorem keys_properties_ofList (declared : List Parameter) :
    OrderedMap.keys (ofList declared).properties = (namesOf declared).eraseDups := by
  induction declared using List.reverseRecOn with
  | nil => rfl
  | append_singleton declared parameter ih =>
    rw [ofList_concat, declare, OrderedMap.keys_insert, ih, namesOf_concat, eraseDups_concat]
    simp only [List.mem_eraseDups]

/-- **Names have their schemas by their last declarations.** -/
theorem get?_properties_ofList (declared : List Parameter) (name : String) :
    OrderedMap.get? (ofList declared).properties name = (last? name declared).map (·.schema) := by
  induction declared using List.reverseRecOn with
  | nil => rfl
  | append_singleton declared parameter ih =>
    rw [ofList_concat, declare, OrderedMap.get?_insert, ih, last?_concat]
    split <;> rfl

/-- **Names are required by their last declarations**, and stand in their order. -/
theorem required_ofList (declared : List Parameter) : (ofList declared).required = requiredNames declared := by
  induction declared using List.reverseRecOn with
  | nil => rfl
  | append_singleton declared parameter ih =>
    have nodup := List.nodup_dedup (namesOf declared)
    -- to the other names the new declaration makes no difference
    have others : (ofList declared).required.erase parameter.name =
        ((namesOf declared).dedup.erase parameter.name).filter fun name =>
          (last? name (declared ++ [parameter])).any (·.isRequired) := by
      rw [ih, requiredNames, (nodup.filter _).erase_eq_filter, nodup.erase_eq_filter, List.filter_comm]
      refine List.filter_congr fun name member => ?_
      have differs : parameter.name ≠ name := by
        rintro rfl
        simp at member
      rw [last?_concat, if_neg differs]
    rw [ofList_concat, declare, requiredNames, namesOf_concat, dedup_concat, List.filter_append, ← others,
      List.filter_singleton, last?_concat, if_pos rfl, Option.any_some]
    cases parameter.isRequired with
    | true => rfl
    | false => exact (List.append_nil _).symm

end ParameterGroup

/-! ### All parts -/

theorem groupParameters_concat (declared : List Parameter) (parameter : Parameter) :
    groupParameters (declared ++ [parameter]) = addParameter (groupParameters declared) parameter := by
  rw [groupParameters, List.foldl_append]
  rfl

/-- **Parts have their places by the first declarations in them.** -/
theorem keys_groupParameters (declared : List Parameter) :
    OrderedMap.keys (groupParameters declared) = (declared.map (·.part)).eraseDups := by
  induction declared using List.reverseRecOn with
  | nil => rfl
  | append_singleton declared parameter ih =>
    rw [groupParameters_concat, addParameter, OrderedMap.keys_insert, ih, List.map_append, List.map_singleton,
      eraseDups_concat]
    simp only [List.mem_eraseDups]

/-- **The parameters of a part** are those of the declarations in it. -/
theorem getD_groupParameters (declared : List Parameter) (part : RequestPart) :
    (OrderedMap.get? (groupParameters declared) part).getD .empty = .ofList (inPart part declared) := by
  induction declared using List.reverseRecOn generalizing part with
  | nil => rfl
  | append_singleton declared parameter ih =>
    rw [groupParameters_concat, addParameter, OrderedMap.get?_insert, inPart_append, inPart.eq_1 part [parameter],
      List.filter_singleton]
    by_cases here : parameter.part = part
    · rw [if_pos here, Option.getD_some, decide_eq_true here, cond_true, ParameterGroup.ofList_concat, here, ih]
    · rw [if_neg here, ih, decide_eq_false here, cond_false, List.append_nil]

theorem get?_groupParameters {declared : List Parameter} {part : RequestPart}
    (present : part ∈ declared.map (·.part)) :
    OrderedMap.get? (groupParameters declared) part = some (.ofList (inPart part declared)) := by
  rw [← List.mem_eraseDups, ← keys_groupParameters, ← OrderedMap.get?_isSome_iff] at present
  obtain ⟨group, found⟩ := Option.isSome_iff_exists.mp present
  rw [← getD_groupParameters, found, Option.getD_some]

theorem distinct_groupParameters (declared : List Parameter) : OrderedMap.Distinct (groupParameters declared) := by
  rw [OrderedMap.Distinct, keys_groupParameters]
  exact nodup_eraseDups _

/-- Each part is one in which parameters are declared, with the declarations in it. -/
theorem mem_groupParameters {declared : List Parameter} {part : RequestPart} {group : ParameterGroup}
    (member : (part, group) ∈ groupParameters declared) :
    part ∈ declared.map (·.part) ∧ group = .ofList (inPart part declared) := by
  have found := OrderedMap.get?_eq_some_of_mem (distinct_groupParameters declared) member
  have present := OrderedMap.mem_keys_of_get? found
  rw [keys_groupParameters, List.mem_eraseDups] at present
  exact ⟨present, Option.some.inj (found.symm.trans (get?_groupParameters present))⟩

theorem keys_schemasOf (derive : Bool) (declared : List Parameter) :
    OrderedMap.keys (schemasOf derive declared) =
      (declared.map (·.part)).eraseDups.map fun part => .str part.key := by
  rw [← keys_groupParameters, schemasOf]
  simp [OrderedMap.keys]

end RouteCompiler
