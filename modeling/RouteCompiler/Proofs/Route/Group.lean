/-
**The parameters of a part.**

A part of a request has its properties by name and a list of the names that are required. No name stands in the list
twice, every name in it is that of a property, and a part whose parameters are all required lists all of them.

* `ParameterGroup.Sound`: what holds of the names of a part;
* `sound_ofList`: it holds of the declarations of a part;
* `sound_groupParameters`, `schema_of_groupParameters`: the names and the schemas of every part.
-/

import RouteCompiler.Proofs.Route.Declaration

namespace RouteCompiler

namespace ParameterGroup

variable {part : RequestPart} {declared : List Parameter}

/-- What holds of the names of the parameters of a part. -/
structure Sound (part : RequestPart) (group : ParameterGroup) : Prop where
  nodup : group.required.Nodup
  declared : ∀ name ∈ group.required, name ∈ OrderedMap.keys group.properties
  ofPath : part = .path → ∀ name ∈ OrderedMap.keys group.properties, name ∈ group.required

theorem mem_keys_properties_ofList {name : String} :
    name ∈ OrderedMap.keys (ofList declared).properties ↔ ∃ parameter, last? name declared = some parameter := by
  rw [← OrderedMap.get?_isSome_iff, get?_properties_ofList, Option.isSome_map, Option.isSome_iff_exists]

/-- **The names of a part are sound.** A parameter of the path must be required. -/
theorem sound_ofList (isRequired : ∀ parameter ∈ declared, part = .path → parameter.isRequired = true) :
    (ofList declared).Sound part where
  nodup := by
    rw [required_ofList]
    exact nodup_requiredNames declared
  declared := by
    intro name member
    rw [required_ofList, mem_requiredNames] at member
    obtain ⟨parameter, isLast, _⟩ := member
    exact mem_keys_properties_ofList.mpr ⟨parameter, isLast⟩
  ofPath := by
    intro isPath name member
    obtain ⟨parameter, isLast⟩ := mem_keys_properties_ofList.mp member
    rw [required_ofList, mem_requiredNames]
    exact ⟨parameter, isLast, isRequired parameter (mem_of_last? isLast) isPath⟩

/-- A parameter that is declared is one of the part. -/
theorem properties_ofList_ne_nil {parameter : Parameter} (member : parameter ∈ declared) :
    (ofList declared).properties ≠ [] := by
  intro none
  have named : parameter.name ∈ namesOf declared := List.mem_map_of_mem member
  rw [← List.mem_eraseDups, ← keys_properties_ofList, none] at named
  cases named

theorem distinct_properties_ofList : OrderedMap.Distinct (ofList declared).properties := by
  rw [OrderedMap.Distinct, keys_properties_ofList]
  exact nodup_eraseDups _

/-- The schema of a property is that of a declaration. -/
theorem exists_of_mem_properties_ofList {property : String × Tree} (member : property ∈ (ofList declared).properties) :
    ∃ parameter ∈ declared, property.2 = parameter.schema := by
  have found := OrderedMap.get?_eq_some_of_mem distinct_properties_ofList member
  rw [get?_properties_ofList, Option.map_eq_some_iff] at found
  obtain ⟨parameter, isLast, same⟩ := found
  exact ⟨parameter, mem_of_last? isLast, same.symm⟩

end ParameterGroup

/-! ### All parts -/

/-- A declared parameter of the path is required. -/
theorem Parameter.isRequired_of_path {tree : Tree} {parameter : Parameter} (declares : ofTree tree = .ok parameter)
    (isPath : parameter.part = .path) : parameter.isRequired = true :=
  (ofTree_ok_iff.mp declares).isRequired.mpr (Or.inl isPath)

/-- **The names of every part are sound**, and a part has parameters. -/
theorem sound_groupParameters {parameters : List Parameter}
    (required : ∀ parameter ∈ parameters, parameter.part = .path → parameter.isRequired = true) :
    ∀ entry ∈ groupParameters parameters, entry.2.Sound entry.1 ∧ entry.2.properties ≠ [] := by
  rintro ⟨part, group⟩ member
  obtain ⟨present, rfl⟩ := mem_groupParameters member
  obtain ⟨parameter, declared, rfl⟩ := List.mem_map.mp present
  constructor
  · refine ParameterGroup.sound_ofList fun other inPart isPath => ?_
    obtain ⟨among, samePart⟩ := List.mem_filter.mp inPart
    exact required other among ((of_decide_eq_true samePart).trans isPath)
  · exact ParameterGroup.properties_ofList_ne_nil (List.mem_filter.mpr ⟨declared, decide_eq_true rfl⟩)

/-- **The schemas of every part are those of parameters.** -/
theorem schema_of_groupParameters {parameters : List Parameter} :
    ∀ entry ∈ groupParameters parameters, ∀ property ∈ entry.2.properties,
      ∃ parameter ∈ parameters, property.2 = parameter.schema := by
  rintro ⟨part, group⟩ member property inGroup
  obtain ⟨_, rfl⟩ := mem_groupParameters member
  obtain ⟨parameter, inPart, same⟩ := ParameterGroup.exists_of_mem_properties_ofList inGroup
  exact ⟨parameter, List.mem_of_mem_filter inPart, same⟩

end RouteCompiler
