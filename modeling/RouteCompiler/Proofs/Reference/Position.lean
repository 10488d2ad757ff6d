/-
**Positions in a tree.**

A position is a way into a tree, by the keys of maps and the places of items. What stands under a reference has
no position of its own after replacing, since the reference is spliced or replaced there. Everything else stays
where it is: a map that is no reference keeps its keys, and a list its items.

* `Tree.Step`, `Tree.at?`: positions, and what stands there;
* `Tree.Leads`: a position with a condition on what it passes;
* `Registry.Refers`, `Registry.LeadsTo`: references, and positions that pass none;
* `Registry.child?_of_expand`, `Registry.LeadsTo.at?_of_expand`: what is rebuilt stays at its position;
* `expand_bare`: what a reference without siblings becomes.
-/

import RouteCompiler.Proofs.Reference.Direct
import RouteCompiler.Proofs.Reference.Remains

namespace RouteCompiler

open Entries (Apart)

/-! ### Ways into a tree -/

namespace Tree

/-- A step into a container. -/
inductive Step where
  /-- To the value of a key. -/
  | key (key : Scalar)
  /-- To an item, counted from zero. -/
  | item (place : Nat)
  deriving DecidableEq, Repr

/-- What stands one step inside a tree. -/
def child? : Tree → Step → Option Tree
  | .map entries, .key key => OrderedMap.get? entries key
  | .list items, .item place => items[place]?
  | _, _ => none

/-- What stands at a position of a tree. -/
def at? (tree : Tree) : List Step → Option Tree
  | [] => some tree
  | step :: rest => (tree.child? step).bind fun inner => inner.at? rest

/-- A position leads to a node of a tree, and all that it passes on the way, but not the node, is as said. -/
inductive Leads (passed : Tree → Prop) : Tree → List Step → Tree → Prop
  /-- The way is at its end. -/
  | here (tree : Tree) : Leads passed tree [] tree
  /-- A step is made from what may be passed. -/
  | step {tree inner node : Tree} {step : Step} {rest : List Step} (passes : passed tree)
      (child : tree.child? step = some inner) (further : Leads passed inner rest node) :
      Leads passed tree (step :: rest) node

variable {passed : Tree → Prop}

theorem Leads.at?_eq {tree node : Tree} {position : List Step} (leads : Leads passed tree position node) :
    tree.at? position = some node := by
  induction leads with
  | here tree => rfl
  | step passes child further ih => rw [at?, child, Option.bind_some, ih]

theorem maps_subset_of_child? {tree inner : Tree} {step : Step} (child : tree.child? step = some inner) :
    inner.maps ⊆ tree.maps := by
  unfold child? at child
  split at child
  · exact maps_subset_of_mem (OrderedMap.mem_of_get?_eq_some child)
  · exact maps_subset_of_mem_items (List.mem_of_getElem? child)
  · cases child

theorem maps_subset_of_at? {tree node : Tree} {position : List Step} (found : tree.at? position = some node) :
    node.maps ⊆ tree.maps := by
  induction position generalizing tree with
  | nil =>
    cases found
    exact List.Subset.refl _
  | cons step rest ih =>
    obtain ⟨inner, child, further⟩ := Option.bind_eq_some_iff.mp found
    exact fun entries inside => maps_subset_of_child? child (ih further inside)

end Tree

/-! ### References on the way -/

/-- A tree is a reference to a component. -/
def Registry.Refers (registry : Registry) : Tree → Prop
  | .map entries => ∃ pointer ∈ reference? entries, pointer ∈ registry.pointers
  | _ => False

instance (registry : Registry) : DecidablePred registry.Refers
  | .map entries => inferInstanceAs (Decidable (∃ pointer ∈ reference? entries, pointer ∈ registry.pointers))
  | .scalar _ => isFalse nofun
  | .list _ => isFalse nofun
  | .pair .. => isFalse nofun
  | .set _ => isFalse nofun

variable {registry : Registry}

theorem Registry.unknown_of_not_refers {entries : Entries} (stays : ¬ registry.Refers (.map entries))
    (chain : List Pointer) (pointer : Pointer) (isReference : reference? entries = some pointer) :
    registry.direct? chain pointer = none :=
  direct?_eq_none_iff.mpr fun registered => stays ⟨pointer, isReference, registered⟩

/-- A map that is no reference is kept. -/
theorem Registry.expand_of_not_refers {chain : List Pointer} {entries : Entries} {result : Tree}
    (stays : ¬ registry.Refers (.map entries))
    (succeeded : expand (registry.direct? chain) (.map entries) = .ok result) :
    ∃ results, result = .map results ∧
      Entries.Matched (fun value partner => expand (registry.direct? chain) value = .ok partner)
        entries results := by
  cases expand_map_ok_iff.mp succeeded with
  | kept unknown values => exact ⟨_, rfl, expandEntries_ok_iff.mp values⟩
  | spliced isReference found values =>
    cases (unknown_of_not_refers stays chain _ isReference).symm.trans found
  | replaced isReference found noMap alone =>
    cases (unknown_of_not_refers stays chain _ isReference).symm.trans found

/-- The values of a map that is no reference are rebuilt one by one. -/
theorem Registry.expand_map_iff {chain : List Pointer} {entries : Entries} {result : Tree}
    (stays : ¬ registry.Refers (.map entries)) :
    expand (registry.direct? chain) (.map entries) = .ok result ↔
      ∃ results, result = .map results ∧
        Entries.Matched (fun value partner => expand (registry.direct? chain) value = .ok partner)
          entries results := by
  refine ⟨expand_of_not_refers stays, ?_⟩
  rintro ⟨results, rfl, matched⟩
  exact expand_map_ok_iff.mpr (.kept (unknown_of_not_refers stays chain) (expandEntries_ok_iff.mpr matched))

/-- What is no reference and becomes a map is one. -/
theorem Registry.eq_map_of_not_refers {chain : List Pointer} {tree : Tree} {results : Entries}
    (stays : ¬ registry.Refers tree) (succeeded : expand (registry.direct? chain) tree = .ok (.map results)) :
    ∃ entries, tree = .map entries ∧
      Entries.Matched (fun value partner => expand (registry.direct? chain) value = .ok partner)
        entries results := by
  induction tree using Tree.nested_induction with
  | atomic tree atomic =>
    cases atomic.expand_eq.symm.trans succeeded
    cases atomic
  | list items =>
    obtain ⟨_, _, same⟩ := expand_list_ok_iff.mp succeeded
    cases same
  | map entries =>
    obtain ⟨_, same, matched⟩ := expand_of_not_refers stays succeeded
    cases same
    exact ⟨entries, rfl, matched⟩

/-- What stands in a container that is no reference stays there and is rebuilt. -/
theorem Registry.child?_of_expand {chain : List Pointer} {tree result inner : Tree} {step : Tree.Step}
    (stays : ¬ registry.Refers tree) (succeeded : expand (registry.direct? chain) tree = .ok result)
    (child : tree.child? step = some inner) :
    ∃ partner, result.child? step = some partner ∧ expand (registry.direct? chain) inner = .ok partner := by
  unfold Tree.child? at child
  split at child
  · obtain ⟨results, rfl, matched⟩ := expand_of_not_refers stays succeeded
    exact matched.get?_right child
  · obtain ⟨results, atItems, rfl⟩ := expand_list_ok_iff.mp succeeded
    exact getElem?_right (expandItems_ok_iff.mp atItems) child
  · cases child

/-- A position that leads to a node and passes no reference to a component. -/
abbrev Registry.LeadsTo (registry : Registry) : Tree → List Tree.Step → Tree → Prop :=
  Tree.Leads fun passed => ¬ registry.Refers passed

/-- **A node that stands under no reference stays where it is** and is rebuilt there. -/
theorem Registry.LeadsTo.at?_of_expand {chain : List Pointer} {tree node result : Tree}
    {position : List Tree.Step}
    (leads : registry.LeadsTo tree position node)
    (succeeded : expand (registry.direct? chain) tree = .ok result) :
    ∃ partner, result.at? position = some partner ∧ expand (registry.direct? chain) node = .ok partner := by
  induction leads generalizing result with
  | here tree => exact ⟨result, rfl, succeeded⟩
  | step stays child further ih =>
    obtain ⟨middle, atStep, inside⟩ := child?_of_expand stays succeeded child
    obtain ⟨partner, atRest, atNode⟩ := ih inside
    exact ⟨partner, by rw [Tree.at?, atStep, Option.bind_some, atRest], atNode⟩

/-! ### The end of the way -/

/-- A reference without siblings becomes what it stands for. -/
theorem expand_bare {meaning : Meaning} (contents : meaning.KeysApart) {pointer : Pointer} {result : Tree}
    (succeeded : expand meaning (.map [(refKey, .str pointer)]) = .ok result) :
    (meaning pointer = none ∧ result = .map [(refKey, .str pointer)]) ∨
      meaning pointer = some (.ok result) := by
  have alone {results : Entries} (values : expandEntries meaning [(refKey, .str pointer)] = .ok results) :
      results = [(refKey, .str pointer)] := by
    have rebuilt : expandEntries meaning [(refKey, .str pointer)] = .ok [(refKey, .str pointer)] := by
      rw [expandEntries, (Tree.Atomic.scalar _).expand_eq]
      rfl
    exact Except.ok.inj (values.symm.trans rebuilt)
  cases expand_map_ok_iff.mp succeeded with
  | kept unknown values => exact Or.inl ⟨unknown pointer rfl, by rw [alone values]⟩
  | @spliced target content results isReference found values =>
    cases isReference
    have apart : Apart ([] ++ content) := contents pointer content (Meaning.map?_eq_some found)
    have itself : splice content [(refKey, .str pointer)] = content := Entries.merge_of_apart apart
    rw [alone values, itself]
    exact Or.inr found
  | replaced isReference found noMap single =>
    cases isReference
    exact Or.inr found

end RouteCompiler
