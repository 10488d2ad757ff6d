/-
**The registry of components.**

The components of a document are grouped. Every component of a group that is an object is registered
under its pointer, in the order of the document; a group that is no object registers nothing.

* `Component`: a component with its pointer and address;
* `Registry.ofComponents`: the registry of the components of a document;
* `Registry.body?`: the body that a pointer addresses;
* `Registry.notOn`: the registered pointers that are not on a chain, which bound how deep resolution
  can go.
-/

import RouteCompiler.Reference.Occurrence
import RouteCompiler.Reference.Pointer

namespace RouteCompiler

/-- A component: its pointer, the names of its group and of itself, and its body. -/
structure Component where
  pointer : Pointer
  group : String
  key : String
  body : Tree
  deriving Repr

/-- The components of a document in order. -/
abbrev Registry := List Component

namespace Registry

/-- The component of an entry of a group. Both names must be texts to make a pointer. -/
def component (group key : Scalar) (body : Tree) : Except Failure Component :=
  match group, key with
  | .str group, .str key => .ok ⟨componentPointer group key, group, key, body⟩
  | .str _, key => .error (.unexpected (.nameNotText key.kind))
  | group, _ => .error (.unexpected (.nameNotText group.kind))

/-- The components of a group. -/
def ofGroup (group : Scalar) : Tree → Except Failure Registry
  | .map entries => entries.mapM fun entry => component group entry.1 entry.2
  | _ => .ok []

/-- The registry of the components of a document. -/
def ofComponents : Tree → Except Failure Registry
  | .map groups => do
    let registries ← groups.mapM fun group => ofGroup group.1 group.2
    return registries.flatten
  | other => .error (.unexpected (.notAnObject other.kind))

/-- The registered pointers in order. -/
def pointers (registry : Registry) : List Pointer :=
  registry.map (·.pointer)

/-- The body of the component that a pointer addresses. -/
def body? (registry : Registry) (pointer : Pointer) : Option Tree :=
  (registry.find? fun component => component.pointer == pointer).map (·.body)

/-- The registered pointers that are not on a chain. -/
def notOn (registry : Registry) (chain : List Pointer) : List Pointer :=
  registry.pointers.filter fun pointer => decide (pointer ∉ chain)

theorem mem_pointers_of_body? {registry : Registry} {pointer : Pointer} {body : Tree}
    (found : registry.body? pointer = some body) : pointer ∈ registry.pointers := by
  unfold body? at found
  obtain ⟨component, present, _⟩ := Option.map_eq_some_iff.mp found
  have member := List.mem_of_find?_eq_some present
  have same := List.find?_some present
  simp only [beq_iff_eq] at same
  exact List.mem_map.mpr ⟨component, member, same⟩

theorem body?_isSome_iff (registry : Registry) (pointer : Pointer) :
    (registry.body? pointer).isSome = true ↔ pointer ∈ registry.pointers := by
  simp [body?, pointers]

/-- A registered pointer that is put on a chain leaves fewer that are not on it. -/
theorem length_notOn_lt {registry : Registry} {chain : List Pointer} {pointer : Pointer}
    (registered : pointer ∈ registry.pointers) (fresh : pointer ∉ chain) :
    (registry.notOn (chain ++ [pointer])).length < (registry.notOn chain).length := by
  have smaller : registry.notOn (chain ++ [pointer]) =
      (registry.notOn chain).filter fun other => decide (other ≠ pointer) := by
    simp only [notOn, List.filter_filter]
    congr 1
    funext other
    simp [Bool.and_comm]
  rw [smaller]
  apply List.length_filter_lt_length_iff_exists.mpr
  refine ⟨pointer, ?_, by simp⟩
  simp [notOn, registered, fresh]

end Registry

end RouteCompiler
