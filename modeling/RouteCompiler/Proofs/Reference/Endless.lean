/-
**Documents that are part of themselves.**

Going down from the root of such a document comes to a node that is on the path already, and the tree with knots stops
there. A tree has no knots, and what has no knots is a tree. Entries by themselves aside, which nothing goes down
into, a document without a tree has a knot, and so it is never resolved. What it fails with is a failure of the
compiler before the knot, or the knot itself.

* `Yaml.treeOf?_of_unfold`: what has no knots is a tree;
* `Yaml.Endless.mem_occurrences_toTree`: a document without a tree has a knot;
* `resolveEndless_outcome`: the outcome of resolving is that of its steps;
* `not_resolved_of_knot`, `endless_not_resolved`: a document with a knot is not resolved;
* `failsBy_resolveDocument`, `failsBy_resolveEndless`: how resolving fails.
-/

import RouteCompiler.Proofs.Reference.Cycles
import RouteCompiler.Proofs.Source.Node
import RouteCompiler.Proofs.Stumble
import RouteCompiler.Reference.Endless

namespace RouteCompiler

/-! ### Trees and knots -/

namespace Yaml

variable {made : Array (Option Made)} {fuel : Nat} {id : NodeId} {tree : Tree}

/-- No node is made a list of entries by themselves. -/
def WithoutPairs (made : Array (Option Made)) : Prop :=
  ∀ (node : NodeId) (entries : List (NodeId × NodeId)), made[node]?.join ≠ some (.pairs entries)

/-- **What has no knots is a tree**, unless there are entries by themselves: nothing goes down into these. -/
theorem treeOf?_of_unfold {pointer : Pointer} {path : List NodeId} (noPairs : WithoutPairs made)
    (noKnot : pointer ∉ occurrences (unfold made (referenceTo pointer) fuel path id)) :
    treeOf? made fuel id = some (unfold made (referenceTo pointer) fuel path id) := by
  have atKnot : pointer ∈ occurrences (referenceTo pointer) := mem_occurrences_map.mpr (.inl rfl)
  induction fuel generalizing path id with
  | zero => exact absurd atKnot noKnot
  | succ fuel ih =>
    rw [unfold] at noKnot ⊢
    by_cases onPath : id ∈ path
    · rw [if_pos onPath] at noKnot
      exact absurd atKnot noKnot
    · rw [if_neg onPath] at noKnot ⊢
      refine treeOf?_succ_iff.mpr ?_
      cases atNode : made[id]?.join with
      | none => exact .absent
      | some content =>
        rw [atNode] at noKnot
        cases content with
        | scalar value => exact .scalar value
        | set members => exact .set members
        | pairs entries => exact absurd atNode (noPairs id entries)
        | list items =>
          refine .list (List.forall₂_map_right_iff.mpr (List.forall₂_same.mpr fun item member => ih fun inItem => ?_))
          exact noKnot (mem_occurrences_list.mpr ⟨_, List.mem_map_of_mem member, inItem⟩)
        | map entries =>
          refine .map (List.forall₂_map_right_iff.mpr (List.forall₂_same.mpr fun entry member => ⟨rfl, ?_⟩))
          refine ih fun inValue => noKnot ?_
          exact mem_occurrences_map.mpr (.inr ⟨_, List.mem_map_of_mem member, inValue⟩)

/-- **A document without a tree has a knot**, whatever the knots are called. -/
theorem Endless.mem_occurrences_toTree {document : Endless} (noPairs : WithoutPairs document.made) (pointer : Pointer) :
    pointer ∈ occurrences (document.toTree (referenceTo pointer)) := by
  by_contra noKnot
  cases document.noTree.symm.trans (treeOf?_of_unfold noPairs noKnot)

end Yaml

/-! ### Resolving -/

variable {document : Yaml.Endless} {entries : Entries}

/-- The registry of a document with its knot. -/
def knottedRegistry (document : Yaml.Endless) : Except Failure Registry := do
  let registry ← Registry.ofComponents (document.components (referenceTo document.knot))
  return registry ++ [knotComponent document.knot]

/-- The entries of the tree with knots of a document with every reference to a component replaced, unless that has no
end. -/
def substitutedEndless (document : Yaml.Endless) (entries : Entries) : Except Failure Tree := do
  let registry ← knottedRegistry document
  (registry.resolveDirect (.map (withComponents entries))).mapError (knotted document.knot)

/-- **The outcome of resolving is that of its steps**, without a memory. -/
theorem resolveEndless_outcome (isMap : document.toTree (referenceTo document.knot) = .map entries) :
    (resolveEndless document).outcome.1 =
      substitutedEndless document entries >>= fun resolved =>
        (withoutOrphans resolved).mapError (knotted document.knot) := by
  unfold resolveEndless Run.outcome substitutedEndless knottedRegistry
  simp only [isMap, run_bind, Run.run_ofExcept, Run.report, Run.run_reportAll]
  cases Registry.ofComponents (document.components (referenceTo document.knot)) with
  | error failure => rfl
  | ok registry =>
    have outcome := (step_sound (Memo.sound_empty (registry ++ [knotComponent document.knot]))
      (.map (withComponents entries))).1
    simp only [ok_bind, pure_bind, ← outcome]
    cases (Registry.step (registry ++ [knotComponent document.knot]) .empty (.map (withComponents entries))).1 with
    | error failure => rfl
    | ok resolved =>
      simp only [Except.mapError, ok_bind, withoutOrphans]
      split <;> rfl

/-- The name of a knot is no pointer to a component. -/
theorem knot_not_mem_pointers {components : Tree} {registry : Registry}
    (registered : Registry.ofComponents components = .ok registry) : document.knot ∉ registry.pointers := by
  intro member
  obtain ⟨component, inRegistry, same⟩ := List.mem_map.mp member
  cases components with
  | map groups =>
    obtain ⟨_, _, _, pointer⟩ := mem_ofComponents registered inRegistry
    have first := congrArg (fun text => text.toList.head?) (pointer.symm.trans same)
    simp [componentPointer, componentsRoot, Yaml.Endless.knot] at first
  | _ => cases registered

/-- A knot is a circle of its own. -/
theorem mentions_knot {registry : Registry} (registered : knottedRegistry document = .ok registry) :
    registry.Mentions document.knot document.knot := by
  obtain ⟨components, ofComponents, same⟩ := bind_ok_iff.mp registered
  cases same
  have none : components.find? (fun component => component.pointer == document.knot) = Option.none :=
    Option.map_eq_none_iff.mp (Registry.body?_eq_none_iff.mpr (knot_not_mem_pointers ofComponents))
  refine ⟨referenceTo document.knot, ?_, mem_occurrences_map.mpr (.inl rfl), ?_⟩
  · rw [Registry.body?, List.find?_append, none]
    simp [knotComponent]
  · simp [Registry.pointers, knotComponent]

/-- A document that is completed by components keeps its references. -/
theorem mem_occurrences_withComponents {pointer : Pointer} (found : pointer ∈ occurrences (.map entries)) :
    pointer ∈ occurrences (.map (withComponents entries)) := by
  unfold withComponents
  split
  · rename_i missing
    rcases mem_occurrences_map.mp found with isReference | ⟨entry, member, inValue⟩
    · refine mem_occurrences_map.mpr (.inl ?_)
      rw [reference?, OrderedMap.get?_insert, if_neg (by decide)]
      exact isReference
    · rcases OrderedMap.mem_insert_or member "components" (.map []) with kept | replaced
      · exact mem_occurrences_map.mpr (.inr ⟨entry, kept, inValue⟩)
      · rcases missing with absent | isNull
        · cases absent.symm.trans replaced
        · rw [← Option.some.inj (isNull.symm.trans replaced)] at inValue
          cases inValue
  · exact found

/-- **A document with a knot is not resolved.** -/
theorem not_resolved_of_knot (knotted : document.knot ∈ occurrences (document.toTree (referenceTo document.knot)))
    (resolved : Tree) : (resolveEndless document).outcome.1 ≠ .ok resolved := by
  intro succeeded
  cases unfolded : document.toTree (referenceTo document.knot) with
  | map entries =>
    rw [unfolded] at knotted
    rw [resolveEndless_outcome unfolded] at succeeded
    obtain ⟨_, substituted, _⟩ := bind_ok_iff.mp succeeded
    obtain ⟨registry, registered, replaced⟩ := bind_ok_iff.mp substituted
    have circle : registry.Mentions document.knot document.knot := mentions_knot registered
    obtain ⟨_, _, _, known⟩ := circle
    rcases ok_of_mem_occurrences (mapError_ok_iff.mp replaced) (mem_occurrences_withComponents knotted) with
      unknown | ⟨content, value⟩
    · exact Registry.direct?_eq_none_iff.mp unknown known
    · exact Registry.not_transGen_self value (.single (mentions_knot registered))
  | _ =>
    unfold resolveEndless at succeeded
    simp only [unfolded] at succeeded
    cases succeeded

/-- **A document that is part of itself is not resolved**, unless it is so inside entries by themselves alone. -/
theorem endless_not_resolved (noPairs : Yaml.WithoutPairs document.made) (resolved : Tree) :
    (resolveEndless document).outcome.1 ≠ .ok resolved :=
  not_resolved_of_knot (Yaml.Endless.mem_occurrences_toTree noPairs _) resolved

/-! ### Failures -/

theorem failsBy_resolveDirect (registry : Registry) (tree : Tree) :
    FailsBy (·.isCompileFailure = true) (registry.resolveDirect tree) := by
  have ofSiblings (pointer : Pointer) (entries : Entries) {failure : Failure}
      (same : failure = siblingFailure pointer entries) :
      failure.isCompileFailure = true ∨ ∃ cause, failure = .unexpected cause := by
    rcases siblingFailure_cases pointer entries with ⟨_, _, other⟩ | ⟨cause, other⟩
    · exact .inl (by rw [same, other]; rfl)
    · exact .inr ⟨cause, same.trans other⟩
  intro failure failed
  rcases expand_error failed with ⟨pointer, _, failing⟩ | ⟨pointer, entries, _, same⟩
  · rcases Registry.direct?_error_cases failing with ⟨_, rfl⟩ | ⟨_, _, rfl⟩ | ⟨cause, rfl⟩
    · exact .inl rfl
    · exact .inl rfl
    · exact .inr ⟨cause, rfl⟩
  · exact ofSiblings pointer entries same

theorem failsBy_withoutOrphans (resolved : Tree) : FailsBy (·.isCompileFailure = true) (withoutOrphans resolved) := by
  unfold withoutOrphans
  split
  · exact .ok _
  · exact .error rfl

/-- Resolving fails with a failure of the compiler, unless it stumbles. -/
theorem failsBy_resolveDocument (document : Tree) :
    FailsBy (·.isCompileFailure = true) (resolveDocument document).outcome.1 := by
  rw [resolveDocument_outcome]
  refine .bind (.bind ?_ fun registry => failsBy_resolveDirect registry _) failsBy_withoutOrphans
  cases document with
  | map entries => exact fun failure failed => .inr (ofComponents_error failed)
  | _ => exact .unexpected _

end RouteCompiler
