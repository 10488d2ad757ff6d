/-
**Circles of components.**

A component mentions another one when a reference to it stands anywhere in its body. The search for
circles goes down one chain of pointers at a time and is cut short by every value that is remembered, and
still it finds a circle exactly when the graph of mentions has one.

* `Registry.Mentions`, `Linked`: the graph of the components of a registry and of a document;
* `circle_of_cyclic`: a reported circle is a walk of the graph that ends where it has been before, since
  the chain of a pointer is always a walk without repetitions;
* `not_transGen_self`: a pointer that stands for a value is on no circle, since all pointers that it leads
  to stand for values under longer chains;
* `circles_of_components`: both for a document, whose components are all looked into.
-/

import Mathlib.Data.List.Chain
import Mathlib.Logic.Relation
import RouteCompiler.Proofs.Reference.Document

namespace RouteCompiler

open Relation

/-! ### The graph -/

/-- One component mentions another: the reference stands somewhere in its body. -/
def Registry.Mentions (registry : Registry) (source target : Pointer) : Prop :=
  ∃ body, registry.body? source = some body ∧ target ∈ occurrences body ∧ target ∈ registry.pointers

/-- A walk that ends where it has been before, and visits nothing else twice. -/
structure Circle (edge : Pointer → Pointer → Prop) (walk : List Pointer) : Prop where
  follows : walk.IsChain edge
  nodup : walk.dropLast.Nodup
  closed : ∃ last ∈ walk.dropLast, walk = walk.dropLast ++ [last]

/-- The ends of a walk with at least one edge are joined. -/
theorem transGen_of_isChain {edge : Pointer → Pointer → Prop} {first last : Pointer} {middle : List Pointer}
    (follows : (first :: (middle ++ [last])).IsChain edge) : TransGen edge first last := by
  induction middle generalizing first with
  | nil => exact .single (List.isChain_pair.mp follows)
  | cons next rest ih =>
    rw [List.cons_append, List.isChain_cons_cons] at follows
    exact .head follows.1 (ih follows.2)

/-- A circle joins its last pointer with itself. -/
theorem Circle.transGen {edge : Pointer → Pointer → Prop} {walk : List Pointer} (circle : Circle edge walk) :
    ∃ pointer, TransGen edge pointer pointer := by
  obtain ⟨last, visited, closed⟩ := circle.closed
  obtain ⟨before, after, split⟩ := List.append_of_mem visited
  have follows := circle.follows
  rw [closed, split, List.append_assoc, List.cons_append] at follows
  exact ⟨last, transGen_of_isChain follows.right_of_append⟩

/-! ### Failures -/

theorem siblingFailure_cases (pointer : Pointer) (entries : Entries) :
    (∃ problem location, siblingFailure pointer entries = .malformed problem location) ∨
      ∃ cause, siblingFailure pointer entries = .unexpected cause := by
  unfold siblingFailure
  split
  · unfold Failure.ofProblem
    split
    · exact Or.inl ⟨_, _, rfl⟩
    · exact Or.inr ⟨_, rfl⟩
  · exact Or.inr ⟨_, rfl⟩

namespace Registry

variable {registry : Registry}

/-- **A reported circle is one.** The chain of a pointer is a walk without repetitions. -/
theorem circle_of_cyclic {chain circle : List Pointer} {pointer : Pointer}
    (failed : registry.direct? chain pointer = some (.error (.cyclic circle)))
    (follows : (chain ++ [pointer]).IsChain registry.Mentions) (nodup : chain.Nodup) :
    Circle registry.Mentions circle := by
  induction chain using registry.chain_induction generalizing pointer with
  | step chain ih =>
    rcases direct?_error failed with ⟨visited, same⟩ | ⟨body, found, fresh, inside⟩
    · cases same
      refine ⟨follows, ?_, pointer, ?_, ?_⟩
      · rwa [List.dropLast_concat]
      · rwa [List.dropLast_concat]
      · rw [List.dropLast_concat]
    · rcases expand_error inside with ⟨next, mentioned, failing⟩ | ⟨_, entries, _, same⟩
      · have registered : next ∈ registry.pointers := by
          by_contra unknown
          rw [direct?_eq_none_iff.mpr unknown] at failing
          cases failing
        refine ih pointer (mem_pointers_of_body? found) fresh failing ?_ ?_
        · refine follows.append (.singleton next) fun last atEnd other same => ?_
          rw [List.getLast?_concat] at atEnd
          cases atEnd
          cases same
          exact ⟨body, found, mentioned, registered⟩
        · exact List.nodup_append.mpr ⟨nodup, by simp, fun other onChain last same => by
            rw [List.mem_singleton.mp same]
            exact fun equal => fresh (equal ▸ onChain)⟩
      · rcases siblingFailure_cases _ entries with ⟨_, _, other⟩ | ⟨_, other⟩
        · rw [other] at same
          cases same
        · rw [other] at same
          cases same

/-- What a reference fails with: a circle, siblings that cannot be spliced, or siblings that cannot even
be listed. -/
theorem direct?_error_cases {chain : List Pointer} {pointer : Pointer} {failure : Failure}
    (failed : registry.direct? chain pointer = some (.error failure)) :
    (∃ circle, failure = .cyclic circle) ∨ (∃ problem location, failure = .malformed problem location) ∨
      ∃ cause, failure = .unexpected cause := by
  induction chain using registry.chain_induction generalizing pointer with
  | step chain ih =>
    rcases direct?_error failed with ⟨_, same⟩ | ⟨body, found, fresh, inside⟩
    · exact Or.inl ⟨_, same⟩
    · rcases expand_error inside with ⟨next, _, failing⟩ | ⟨_, entries, _, rfl⟩
      · exact ih pointer (mem_pointers_of_body? found) fresh failing
      · exact Or.inr (siblingFailure_cases _ entries)

/-! ### Values -/

/-- When a pointer stands for a value, so does every one that its component mentions. -/
theorem ok_of_mentions {chain : List Pointer} {source target : Pointer} {content : Tree}
    (succeeded : registry.direct? chain source = some (.ok content))
    (mentions : registry.Mentions source target) :
    ∃ inner, registry.direct? (chain ++ [source]) target = some (.ok inner) := by
  obtain ⟨body, found, mentioned, registered⟩ := mentions
  obtain ⟨other, same, _, inside⟩ := direct?_ok_iff.mp succeeded
  cases found.symm.trans same
  rcases ok_of_mem_occurrences inside mentioned with unknown | value
  · exact absurd registered (direct?_eq_none_iff.mp unknown)
  · exact value

/-- A pointer that is reached stands for a value under a chain that has the pointer where the walk
began. -/
theorem ok_of_transGen {chain : List Pointer} {source target : Pointer} {content : Tree}
    (succeeded : registry.direct? chain source = some (.ok content))
    (reached : TransGen registry.Mentions source target) :
    ∃ longer inner, source ∈ longer ∧ registry.direct? longer target = some (.ok inner) := by
  induction reached with
  | single mentions =>
    obtain ⟨inner, value⟩ := ok_of_mentions succeeded mentions
    exact ⟨_, inner, List.mem_append_right _ List.mem_cons_self, value⟩
  | tail _ mentions ih =>
    obtain ⟨longer, _, member, value⟩ := ih
    obtain ⟨inner, later⟩ := ok_of_mentions value mentions
    exact ⟨_, inner, List.mem_append_left _ member, later⟩

/-- **A pointer that stands for a value is on no circle.** -/
theorem not_transGen_self {chain : List Pointer} {pointer : Pointer} {content : Tree}
    (succeeded : registry.direct? chain pointer = some (.ok content)) :
    ¬ TransGen registry.Mentions pointer pointer := by
  intro circle
  obtain ⟨longer, inner, visited, value⟩ := ok_of_transGen succeeded circle
  obtain ⟨_, _, fresh, _⟩ := direct?_ok_iff.mp value
  exact fresh visited

end Registry

/-! ### Documents -/

/-- One component of a document mentions another. Nothing is linked when the components cannot be
registered. -/
def Linked (document : Tree) (source target : Pointer) : Prop :=
  ∃ registry, registryOf document = .ok registry ∧ registry.Mentions source target

theorem linked_eq {document : Tree} {registry : Registry} (registered : registryOf document = .ok registry) :
    Linked document = registry.Mentions := by
  funext source target
  apply propext
  constructor
  · rintro ⟨other, same, mentions⟩
    cases registered.symm.trans same
    exact mentions
  · exact fun mentions => ⟨registry, registered, mentions⟩

/-- What replacing the references of a document fails with. -/
theorem substituted_error_cases {document : Tree} {failure : Failure}
    (failed : substituted document = .error failure) :
    (∃ circle, failure = .cyclic circle ∧ Circle (Linked document) circle) ∨
      (∃ problem location, failure = .malformed problem location) ∨ ∃ cause, failure = .unexpected cause := by
  rcases bind_error_iff.mp failed with unregistered | ⟨registry, registered, inside⟩
  · refine Or.inr (Or.inr ?_)
    cases document with
    | map entries => exact ofComponents_error unregistered
    | _ =>
      cases unregistered
      exact ⟨_, rfl⟩
  · rcases expand_error inside with ⟨pointer, _, failing⟩ | ⟨_, entries, _, rfl⟩
    · rcases Registry.direct?_error_cases failing with ⟨circle, rfl⟩ | other
      · refine Or.inl ⟨circle, rfl, ?_⟩
        rw [linked_eq registered]
        exact Registry.circle_of_cyclic failing (.singleton pointer) List.nodup_nil
      · exact Or.inr other
    · exact Or.inr (siblingFailure_cases _ entries)

/-- A document whose references can be replaced has no circle, not even one that nothing refers to. -/
theorem not_linked_self_of_substituted {document resolved : Tree} (succeeded : substituted document = .ok resolved)
    (pointer : Pointer) : ¬ TransGen (Linked document) pointer pointer := by
  intro circle
  obtain ⟨registry, registered, inside⟩ := bind_ok_iff.mp succeeded
  rw [linked_eq registered] at circle
  -- the last component on the way back to the pointer mentions it, and its body is part of the document
  obtain ⟨_, _, body, found, mentioned, known⟩ := TransGen.tail'_iff.mp circle
  have inDocument := occurrences_subset (maps_body_subset registered found) mentioned
  rw [completed_eq registered known] at inside
  rcases ok_of_mem_occurrences inside inDocument with unknown | ⟨content, value⟩
  · exact Registry.direct?_eq_none_iff.mp unknown known
  · exact Registry.not_transGen_self value circle

/-- **Circles of components are found exactly.** Where the graph of a document has a circle, resolving
fails, and not with references that remain. Where it has none, no circle is reported. And what is reported
is a circle of the graph. -/
theorem circles_of_components (document : Tree) :
    ((∃ pointer, TransGen (Linked document) pointer pointer) →
      ∃ failure, (resolveDocument document).outcome.1 = .error failure ∧
        ∀ references, failure ≠ .unresolved references) ∧
    ((∀ pointer, ¬ TransGen (Linked document) pointer pointer) →
      ∀ circle, (resolveDocument document).outcome.1 ≠ .error (.cyclic circle)) ∧
    ∀ circle, (resolveDocument document).outcome.1 = .error (.cyclic circle) →
      Circle (Linked document) circle := by
  have reported {circle : List Pointer}
      (failed : (resolveDocument document).outcome.1 = .error (.cyclic circle)) :
      Circle (Linked document) circle := by
    rw [resolveDocument_outcome] at failed
    rcases bind_error_iff.mp failed with here | ⟨resolved, _, refused⟩
    · rcases substituted_error_cases here with ⟨_, same, isCircle⟩ | ⟨_, _, same⟩ | ⟨_, same⟩
      · cases same
        exact isCircle
      · cases same
      · cases same
    · unfold withoutOrphans at refused
      split at refused <;> cases refused
  refine ⟨?_, fun acyclic circle failed => ?_, fun circle => reported⟩
  · rintro ⟨pointer, circle⟩
    rw [resolveDocument_outcome]
    cases outcome : substituted document with
    | ok resolved => exact absurd circle (not_linked_self_of_substituted outcome pointer)
    | error failure =>
      refine ⟨failure, rfl, fun references same => ?_⟩
      rcases substituted_error_cases outcome with ⟨_, other, _⟩ | ⟨_, _, other⟩ | ⟨_, other⟩
      · cases same.symm.trans other
      · cases same.symm.trans other
      · cases same.symm.trans other
  · obtain ⟨pointer, joined⟩ := (reported failed).transGen
    exact acyclic pointer joined

end RouteCompiler
