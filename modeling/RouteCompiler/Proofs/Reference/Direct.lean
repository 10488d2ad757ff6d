/-
**What a pointer stands for.**

A registered pointer stands for the body of its component, resolved under a chain that is longer by the
pointer. A chain can be longer only by registered pointers that are not on it yet, so what holds of longer
chains first holds of all (`chain_induction`).

* `direct?_of_body`: what a pointer stands for, by the body of its component;
* `direct?_ok_iff`, `direct?_error`: when that is a value, and where a failure comes from;
* `direct?_ok_of_subset`, `agrees_of_subset`: a value under a chain is the value under every part of the
  chain.
-/

import RouteCompiler.Proofs.Reference.Expansion
import RouteCompiler.Reference.Inline

namespace RouteCompiler

namespace Registry

variable {registry : Registry} {pointer : Pointer} {chain : List Pointer}

/-! ### Chains -/

/-- Induction over chains, from those that are longer by a registered pointer. -/
@[elab_as_elim]
theorem chain_induction (registry : Registry) {motive : List Pointer → Prop}
    (step : ∀ chain, (∀ pointer ∈ registry.pointers, pointer ∉ chain → motive (chain ++ [pointer])) →
      motive chain) (chain : List Pointer) : motive chain := by
  -- what is left of the registry shrinks
  induction left : (registry.notOn chain).length using Nat.strongRecOn generalizing chain with
  | _ length ih =>
    refine step chain fun pointer registered fresh => ?_
    exact ih _ (left ▸ length_notOn_lt registered fresh) _ rfl

/-! ### Bodies -/

theorem direct?_of_none (absent : registry.body? pointer = none) (chain : List Pointer) :
    registry.direct? chain pointer = none := by
  rw [direct?]
  split
  · rfl
  · rename_i body found
    rw [absent] at found
    cases found

/-- A registered pointer stands for its body, resolved under a longer chain. -/
theorem direct?_of_body {body : Tree} (found : registry.body? pointer = some body) (chain : List Pointer) :
    registry.direct? chain pointer = some
      (if pointer ∈ chain then .error (.cyclic (chain ++ [pointer]))
      else expand (registry.direct? (chain ++ [pointer])) body) := by
  rw [direct?]
  split
  · rename_i absent
    rw [absent] at found
    cases found
  · rename_i other same
    cases found.symm.trans same
    split <;> rfl

theorem body?_eq_none_iff : registry.body? pointer = none ↔ pointer ∉ registry.pointers := by
  rw [← body?_isSome_iff, Option.not_isSome_iff_eq_none]

theorem direct?_eq_none_iff : registry.direct? chain pointer = none ↔ pointer ∉ registry.pointers := by
  rw [← body?_eq_none_iff]
  constructor
  · intro absent
    by_contra known
    obtain ⟨body, found⟩ := Option.ne_none_iff_exists'.mp known
    rw [direct?_of_body found] at absent
    cases absent
  · exact fun absent => direct?_of_none absent chain

/-- The component of a pointer that stands for something. -/
theorem body?_of_direct? {outcome : Except Failure Tree}
    (known : registry.direct? chain pointer = some outcome) : ∃ body, registry.body? pointer = some body := by
  cases found : registry.body? pointer with
  | none =>
    rw [direct?_of_none found] at known
    cases known
  | some body => exact ⟨body, rfl⟩

/-! ### Values and failures -/

theorem direct?_ok_iff {content : Tree} : registry.direct? chain pointer = some (.ok content) ↔
    ∃ body, registry.body? pointer = some body ∧ pointer ∉ chain ∧
      expand (registry.direct? (chain ++ [pointer])) body = .ok content := by
  constructor
  · intro succeeded
    obtain ⟨body, found⟩ := body?_of_direct? succeeded
    rw [direct?_of_body found, Option.some.injEq] at succeeded
    split at succeeded
    · cases succeeded
    · rename_i fresh
      exact ⟨body, found, fresh, succeeded⟩
  · rintro ⟨body, found, fresh, succeeded⟩
    rw [direct?_of_body found, if_neg fresh, succeeded]

/-- A pointer fails because it is on the chain, or with the body of its component. -/
theorem direct?_error {failure : Failure} (failed : registry.direct? chain pointer = some (.error failure)) :
    (pointer ∈ chain ∧ failure = .cyclic (chain ++ [pointer])) ∨
      ∃ body, registry.body? pointer = some body ∧ pointer ∉ chain ∧
        expand (registry.direct? (chain ++ [pointer])) body = .error failure := by
  obtain ⟨body, found⟩ := body?_of_direct? failed
  rw [direct?_of_body found, Option.some.injEq] at failed
  split at failed
  · rename_i onChain
    cases failed
    exact Or.inl ⟨onChain, rfl⟩
  · rename_i fresh
    exact Or.inr ⟨body, found, fresh, failed⟩

/-! ### Other chains -/

/-- **A value under a chain is the value under every part of the chain.** -/
theorem direct?_ok_of_subset {fewer : List Pointer} {content : Tree} (part : fewer ⊆ chain)
    (succeeded : registry.direct? chain pointer = some (.ok content)) :
    registry.direct? fewer pointer = some (.ok content) := by
  induction chain using registry.chain_induction generalizing fewer pointer content with
  | step chain ih =>
    obtain ⟨body, found, fresh, inside⟩ := direct?_ok_iff.mp succeeded
    refine direct?_ok_iff.mpr ⟨body, found, fun member => fresh (part member), ?_⟩
    refine expand_ok_of_agrees (fun next _ => ⟨fun absent => ?_, fun value known => ?_⟩) inside
    · exact direct?_eq_none_iff.mpr (direct?_eq_none_iff.mp absent)
    · refine ih pointer (mem_pointers_of_body? found) fresh (fun other member => ?_) known
      rcases List.mem_append.mp member with onChain | last
      · exact List.mem_append_left _ (part onChain)
      · exact List.mem_append_right _ last

/-- What is said under a chain is said under every part of the chain. -/
theorem agrees_of_subset {fewer : List Pointer} (part : fewer ⊆ chain) (pointer : Pointer) :
    Meaning.Agrees (registry.direct? chain) (registry.direct? fewer) pointer :=
  ⟨fun absent => direct?_eq_none_iff.mpr (direct?_eq_none_iff.mp absent),
    fun _ known => direct?_ok_of_subset part known⟩

end Registry

end RouteCompiler
