/-
**How deep the calls of a resolution go.**

A tree, a reference and a pointer are resolved by three functions that call each other. A call goes down in a tree,
where the height shrinks, or from a pointer to the body of its component, which may be any tree, and then the chain
grows by a registered pointer that is not yet on it. So calls cannot be nested deeper than the height of the tree
and, for each component, the greatest height of a component allow.

Here the three functions are given a limit for the nesting and note the chain that every call is given. Within that
depth they end as the resolution does, with the same value or failure and the same memory.

* `Registry.IsChain`: distinct registered pointers, so no more than there are components;
* `Registry.substituteWithin`, `spliceWithin`, `resolveWithin`: the calls, down to a limit;
* `Traces`: a limited computation that ends as another one does;
* `traces_within`: the three functions end, one limit after the other;
* `calls_end`: a resolution from the empty chain ends, and what chains its calls are given.
-/

import Mathlib.Data.List.Nodup
import Mathlib.Data.List.Perm.Subperm
import RouteCompiler.Proofs.Reference.Memory

namespace RouteCompiler

/-! ### Chains -/

/-- A chain of distinct registered pointers. -/
structure Registry.IsChain (registry : Registry) (chain : List Pointer) : Prop where
  nodup : chain.Nodup
  registered : chain ⊆ registry.pointers

namespace Registry

variable {registry : Registry} {chain : List Pointer} {pointer : Pointer}

theorem isChain_nil (registry : Registry) : registry.IsChain [] :=
  ⟨.nil, List.nil_subset _⟩

theorem IsChain.append (isChain : registry.IsChain chain) (registered : pointer ∈ registry.pointers)
    (fresh : pointer ∉ chain) : registry.IsChain (chain ++ [pointer]) := by
  refine ⟨isChain.nodup.append (List.nodup_singleton pointer) (List.disjoint_singleton.mpr fresh), ?_⟩
  exact List.append_subset.mpr ⟨isChain.registered, by simpa using registered⟩

/-- A chain is not longer than the registry. -/
theorem IsChain.length_le (isChain : registry.IsChain chain) : chain.length ≤ registry.length := by
  have fits := (List.subperm_of_subset isChain.nodup isChain.registered).length_le
  rwa [pointers, List.length_map] at fits

end Registry

/-! ### Limited calls -/

/-- What is kept along limited calls: the memory, and the chains that the calls have been given. -/
structure Trail where
  memo : Memo
  chains : List (List Pointer)

/-- A computation with a trail that may fail, and that does not end when its calls are nested too deep. -/
abbrev Tracing := ExceptT Failure (StateT Trail Option)

namespace Tracing

variable {α : Type}

/-- A call that is nested too deep. -/
def tooDeep : Tracing α :=
  ExceptT.mk fun _ => none

/-- Notes the chain that a call is given. -/
def called (chain : List Pointer) : Tracing PUnit :=
  modify fun trail => { trail with chains := trail.chains ++ [chain] }

/-- A step on the memory. -/
def ofMemo (step : Resolving α) : Tracing α :=
  ExceptT.mk fun trail => some ((step.run trail.memo).1, { trail with memo := (step.run trail.memo).2 })

end Tracing

namespace Registry

/-- The pointer and the body of the component that a map refers to. -/
def referred? (registry : Registry) (entries : Entries) : Option (Pointer × Tree) :=
  (reference? entries).bind fun pointer => (registry.body? pointer).map fun body => (pointer, body)

mutual

/-- A tree with its references replaced, in no more than so many nested calls. -/
def substituteWithin (registry : Registry) : Nat → List Pointer → Tree → Tracing Tree
  | 0, _, _ => Tracing.tooDeep
  | calls + 1, chain, tree => do
    Tracing.called chain
    match tree with
    | .list items => do
      let items ← items.mapM fun item => registry.substituteWithin calls chain item
      return .list items
    | .map entries =>
      match registry.referred? entries with
      | some (pointer, body) => registry.spliceWithin calls chain pointer body entries
      | none => do
        let entries ← entries.mapM fun entry => do
          let value ← registry.substituteWithin calls chain entry.2
          return (entry.1, value)
        return .map entries
    | other => return other

/-- A reference to a component with its siblings, in no more than so many nested calls. -/
def spliceWithin (registry : Registry) : Nat → List Pointer → Pointer → Tree → Entries → Tracing Tree
  | 0, _, _, _, _ => Tracing.tooDeep
  | calls + 1, chain, pointer, body, entries => do
    Tracing.called chain
    match ← registry.resolveWithin calls chain pointer body with
    | .map content => do
      let entries ← entries.mapM fun entry => do
        let value ← registry.substituteWithin calls chain entry.2
        return (entry.1, value)
      return .map (splice content entries)
    | value =>
      if 1 < entries.length then throw (siblingFailure pointer entries)
      else return value

/-- What a pointer with a body stands for, in no more than so many nested calls. -/
def resolveWithin (registry : Registry) : Nat → List Pointer → Pointer → Tree → Tracing Tree
  | 0, _, _, _ => Tracing.tooDeep
  | calls + 1, chain, pointer, body => do
    Tracing.called chain
    if pointer ∈ chain then throw (.cyclic (chain ++ [pointer]))
    else
      match (← Tracing.ofMemo get).get? pointer with
      | some resolved => return resolved
      | none => do
        Tracing.ofMemo (modify (·.start pointer))
        let resolved ← registry.substituteWithin calls (chain ++ [pointer]) body
        Tracing.ofMemo (modify (·.finish pointer resolved))
        return resolved

end

end Registry

/-! ### Limited computations that end -/

section Traces

variable {registry : Registry} {α β : Type}

/-- A limited computation ends as another one does, and its calls are given chains of distinct registered
pointers. -/
def Traces (registry : Registry) (traced : Tracing α) (run : Resolving α) : Prop :=
  ∀ memo chains, ∃ given, (∀ chain ∈ given, registry.IsChain chain) ∧
    traced.run ⟨memo, chains⟩ = some ((run.run memo).1, ⟨(run.run memo).2, chains ++ given⟩)

theorem Traces.pure (value : α) : Traces registry (pure value) (pure value) := by
  intro memo chains
  refine ⟨[], List.forall_mem_nil _, ?_⟩
  rw [List.append_nil]
  rfl

theorem Traces.throw (failure : Failure) : Traces registry (throw failure : Tracing α) (throw failure) := by
  intro memo chains
  refine ⟨[], List.forall_mem_nil _, ?_⟩
  rw [List.append_nil]
  rfl

theorem Traces.ofMemo (step : Resolving α) : Traces registry (Tracing.ofMemo step) step := by
  intro memo chains
  refine ⟨[], List.forall_mem_nil _, ?_⟩
  rw [List.append_nil]
  rfl

/-- **One computation after another.** -/
theorem Traces.bind {traced : Tracing α} {run : Resolving α} {tracedNext : α → Tracing β} {next : α → Resolving β}
    (atFirst : Traces registry traced run) (atNext : ∀ value, Traces registry (tracedNext value) (next value)) :
    Traces registry (traced >>= tracedNext) (run >>= next) := by
  intro memo chains
  obtain ⟨given, admitted, ends⟩ := atFirst memo chains
  have opened : (traced >>= tracedNext).run ⟨memo, chains⟩ =
      (traced.run ⟨memo, chains⟩).bind fun ended => ExceptT.bindCont tracedNext ended.1 ended.2 := rfl
  rw [opened, ends, Option.bind_some, run_bind]
  rcases run.run memo with ⟨failure | value, later⟩
  · exact ⟨given, admitted, rfl⟩
  · obtain ⟨further, alsoAdmitted, endsLater⟩ := atNext value later (chains ++ given)
    rw [List.append_assoc] at endsLater
    exact ⟨given ++ further, List.forall_mem_append.mpr ⟨admitted, alsoAdmitted⟩, endsLater⟩

/-- A call that is given such a chain. -/
theorem Traces.called {chain : List Pointer} (isChain : registry.IsChain chain) {traced : Tracing α}
    {run : Resolving α} (later : Traces registry traced run) :
    Traces registry (Tracing.called chain >>= fun _ => traced) run := by
  intro memo chains
  obtain ⟨given, admitted, ends⟩ := later memo (chains ++ [chain])
  rw [List.append_assoc] at ends
  exact ⟨chain :: given, List.forall_mem_cons.mpr ⟨isChain, admitted⟩, ends⟩

/-! ### Traversals -/

variable {inline? : Pointer → Option (Resolving Tree)} {step : Tree → Tracing Tree}

theorem Traces.items {items : List Tree} (each : ∀ item ∈ items, Traces registry (step item) (expand inline? item)) :
    Traces registry (items.mapM step) (expandItems inline? items) := by
  induction items with
  | nil =>
    rw [List.mapM_nil, expandItems]
    exact .pure []
  | cons item rest ih =>
    obtain ⟨here, later⟩ := List.forall_mem_cons.mp each
    rw [List.mapM_cons, expandItems]
    exact here.bind fun first => (ih later).bind fun others => .pure (first :: others)

theorem Traces.entries {entries : Entries}
    (each : ∀ entry ∈ entries, Traces registry (step entry.2) (expand inline? entry.2)) :
    Traces registry
      (entries.mapM fun entry => do
        let value ← step entry.2
        return (entry.1, value))
      (expandEntries inline? entries) := by
  induction entries with
  | nil =>
    rw [List.mapM_nil, expandEntries]
    exact .pure []
  | cons entry rest ih =>
    obtain ⟨here, later⟩ := List.forall_mem_cons.mp each
    rw [List.mapM_cons, expandEntries, bind_assoc]
    refine here.bind fun value => ?_
    rw [pure_bind]
    exact (ih later).bind fun others => .pure ((entry.1, value) :: others)

end Traces

/-! ### Depth -/

namespace Registry

variable {registry : Registry} {chain : List Pointer} {pointer : Pointer} {body : Tree} {entries : Entries}

/-- The greatest height of a component. -/
def tallest (registry : Registry) : Nat :=
  Tree.heightItems (registry.map (·.body))

/-- How deep calls for a tree may be nested while so many components are not on the chain. -/
def depth (registry : Registry) (left height : Nat) : Nat :=
  left * (2 * registry.tallest + 1) + (2 * height + 1)

/-- How deep the calls for a tree may be nested. -/
def callDepth (registry : Registry) (tree : Tree) : Nat :=
  registry.depth registry.length tree.height

theorem depth_mono {left more : Nat} (fewer : left ≤ more) (height : Nat) :
    registry.depth left height ≤ registry.depth more height :=
  Nat.add_le_add_right (Nat.mul_le_mul_right _ fewer) _

/-- A component fits below a pointer that leaves fewer of them. -/
theorem depth_body_le {left more : Nat} (fewer : left < more) (found : registry.body? pointer = some body) :
    registry.depth left body.height ≤ more * (2 * registry.tallest + 1) := by
  have fits : body.height ≤ registry.tallest := by
    unfold body? at found
    obtain ⟨component, present, same⟩ := Option.map_eq_some_iff.mp found
    exact Tree.height_le_heightItems (List.mem_map.mpr ⟨component, List.mem_of_find?_eq_some present, same⟩)
  calc registry.depth left body.height
      ≤ left * (2 * registry.tallest + 1) + (2 * registry.tallest + 1) :=
        Nat.add_le_add_left (by omega) _
    _ = (left + 1) * (2 * registry.tallest + 1) := (Nat.succ_mul _ _).symm
    _ ≤ more * (2 * registry.tallest + 1) := Nat.mul_le_mul_right _ fewer

/-! ### References -/

theorem referred?_eq_some_iff : registry.referred? entries = some (pointer, body) ↔
    reference? entries = some pointer ∧ registry.body? pointer = some body := by
  cases isReference : reference? entries with
  | none => simp [referred?, isReference]
  | some other =>
    simp only [referred?, isReference, Option.bind_some, Option.map_eq_some_iff, Prod.mk.injEq, Option.some.injEq]
    constructor
    · rintro ⟨_, found, rfl, rfl⟩
      exact ⟨rfl, found⟩
    · rintro ⟨rfl, found⟩
      exact ⟨body, found, rfl, rfl⟩

/-- What is known of a map that refers to no component. -/
theorem known?_of_referred?_none (absent : registry.referred? entries = none) (chain : List Pointer) :
    known? (registry.inline? chain) entries = none := by
  cases isReference : reference? entries with
  | none => rw [known?, isReference, Option.bind_none]
  | some pointer =>
    rw [referred?, isReference, Option.bind_some, Option.map_eq_none_iff] at absent
    rw [known?, isReference, Option.bind_some, inline?_of_none absent, Option.map_none]

theorem known?_of_referred? {run : Resolving Tree} (refers : registry.referred? entries = some (pointer, body))
    (found : registry.inline? chain pointer = some run) :
    known? (registry.inline? chain) entries = some (pointer, run) := by
  rw [known?, (referred?_eq_some_iff.mp refers).1, Option.bind_some, found, Option.map_some]

end Registry

/-! ### Calls -/

section Calls

variable {registry : Registry} {chain : List Pointer} {pointer : Pointer} {body : Tree} {entries : Entries}
  {calls : Nat}

/-- Within so many nested calls the parts of a tree are traced. -/
def TracesTrees (registry : Registry) (calls : Nat) : Prop :=
  ∀ chain tree, registry.IsChain chain → registry.depth (registry.notOn chain).length tree.height ≤ calls →
    Traces registry (registry.substituteWithin calls chain tree) (expand (registry.inline? chain) tree)

/-- A pointer is traced when its body is. -/
theorem traces_resolveWithin (inside : TracesTrees registry calls) (isChain : registry.IsChain chain)
    (found : registry.body? pointer = some body)
    (enough : (registry.notOn chain).length * (2 * registry.tallest + 1) ≤ calls) :
    ∃ run, registry.inline? chain pointer = some run ∧
      Traces registry (registry.resolveWithin (calls + 1) chain pointer body) run := by
  refine ⟨_, Registry.inline?_of_body found chain, ?_⟩
  rw [Registry.resolveWithin]
  refine .called isChain ?_
  by_cases onChain : pointer ∈ chain
  · rw [if_pos onChain, if_pos onChain]
    exact .throw _
  · rw [if_neg onChain, if_neg onChain, retrieve]
    refine (Traces.ofMemo get).bind fun memo => ?_
    cases memo.get? pointer with
    | some resolved => exact .pure resolved
    | none =>
      have registered := Registry.mem_pointers_of_body? found
      have fewer := Registry.length_notOn_lt registered onChain
      have atBody := inside (chain ++ [pointer]) body (isChain.append registered onChain)
        (Nat.le_trans (Registry.depth_body_le fewer found) enough)
      exact (Traces.ofMemo _).bind fun _ => atBody.bind fun resolved =>
        (Traces.ofMemo _).bind fun _ => .pure resolved

/-- The values of a map are traced when all trees are. -/
theorem traces_values (inside : TracesTrees registry calls) (isChain : registry.IsChain chain)
    (enough : registry.depth (registry.notOn chain).length (Tree.map entries).height ≤ calls + 2) :
    Traces registry
      (entries.mapM fun entry => do
        let value ← registry.substituteWithin calls chain entry.2
        return (entry.1, value))
      (expandEntries (registry.inline? chain) entries) := by
  refine Traces.entries fun entry member => inside chain entry.2 isChain ?_
  have lower : entry.2.height ≤ Tree.heightEntries entries := Tree.height_le_heightEntries member
  unfold Registry.depth at enough ⊢
  rw [Tree.height] at enough
  omega

/-- A reference is traced when the body of its component and its siblings are. -/
theorem traces_spliceWithin (atBody : TracesTrees registry calls) (atSiblings : TracesTrees registry (calls + 1))
    (isChain : registry.IsChain chain) (refers : registry.referred? entries = some (pointer, body))
    (enough : registry.depth (registry.notOn chain).length (Tree.map entries).height ≤ calls + 3) :
    Traces registry (registry.spliceWithin (calls + 2) chain pointer body entries)
      (expand (registry.inline? chain) (.map entries)) := by
  have values := traces_values atSiblings isChain enough
  have left : (registry.notOn chain).length * (2 * registry.tallest + 1) ≤ calls := by
    unfold Registry.depth at enough
    rw [Tree.height] at enough
    omega
  obtain ⟨run, found, resolves⟩ :=
    traces_resolveWithin atBody isChain (Registry.referred?_eq_some_iff.mp refers).2 left
  rw [Registry.spliceWithin, expand, Registry.known?_of_referred? refers found]
  refine .called isChain (resolves.bind fun content => ?_)
  cases content with
  | map content => exact values.bind fun results => .pure (Tree.map (splice content results))
  | _ =>
    show Traces registry (ite _ _ _) (ite _ _ _)
    split
    · exact .throw _
    · exact .pure _

/-- **The calls for a tree end**, when they may be nested as deep as the components that are left and the height of
the tree allow. The induction is on the limit, and every call is one level below the one that makes it. -/
theorem traces_within (registry : Registry) (calls : Nat) : TracesTrees registry calls := by
  induction calls using Nat.strongRecOn with
  | _ calls ih =>
    intro chain tree isChain enough
    cases calls with
    | zero =>
      unfold Registry.depth at enough
      omega
    | succ calls =>
      have inside := ih calls (Nat.lt_succ_self calls)
      cases tree with
      | list items =>
        have values : Traces registry (items.mapM fun item => registry.substituteWithin calls chain item)
            (expandItems (registry.inline? chain) items) := by
          refine Traces.items fun item member => inside chain item isChain ?_
          have lower := Tree.height_le_heightItems member
          unfold Registry.depth at enough ⊢
          rw [Tree.height] at enough
          omega
        rw [Registry.substituteWithin, expand]
        exact .called isChain (values.bind fun results => .pure (Tree.list results))
      | map entries =>
        rw [Registry.substituteWithin]
        refine .called isChain ?_
        cases refers : registry.referred? entries with
        | none =>
          have values := traces_values inside isChain (Nat.le_succ_of_le enough)
          rw [expand, Registry.known?_of_referred?_none refers]
          exact values.bind fun results => .pure (Tree.map results)
        | some component =>
          obtain ⟨further, rfl⟩ : ∃ further, calls = further + 2 := by
            refine ⟨calls - 2, ?_⟩
            unfold Registry.depth at enough
            rw [Tree.height] at enough
            omega
          exact traces_spliceWithin (ih further (by omega)) (ih (further + 1) (by omega)) isChain refers enough
      | _ =>
        rw [Registry.substituteWithin, expand]
        · exact .called isChain (.pure _)
        · intro items same
          cases same
        · intro entries same
          cases same

end Calls

/-! ### Resolutions -/

/-- **A resolution ends.** From the empty chain its calls are nested no deeper than the height of the tree and the
components allow, and it ends with a value or a failure, the one of the resolution. All chains that the calls are
given are chains of distinct registered pointers, which are not longer than the registry. -/
theorem calls_end (registry : Registry) (memo : Memo) (tree : Tree) (spare : Nat) :
    ∃ chains, (registry.substituteWithin (registry.callDepth tree + spare) [] tree).run ⟨memo, []⟩ =
        some ((registry.step memo tree).1, ⟨(registry.step memo tree).2, chains⟩) ∧
      ∀ chain ∈ chains, chain.Nodup ∧ chain ⊆ registry.pointers ∧ chain.length ≤ registry.length := by
  have enough : registry.depth (registry.notOn []).length tree.height ≤ registry.callDepth tree + spare := by
    have fewer : (registry.notOn []).length ≤ registry.length := by
      have within := List.length_filter_le (fun pointer => decide (pointer ∉ ([] : List Pointer))) registry.pointers
      rwa [Registry.pointers, List.length_map] at within
    exact Nat.le_add_right_of_le (Registry.depth_mono fewer _)
  obtain ⟨chains, admitted, ends⟩ := traces_within registry _ [] tree registry.isChain_nil enough memo []
  exact ⟨chains, ends, fun chain member =>
    ⟨(admitted chain member).nodup, (admitted chain member).registered, (admitted chain member).length_le⟩⟩

end RouteCompiler
