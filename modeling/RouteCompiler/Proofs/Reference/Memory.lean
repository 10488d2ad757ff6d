/-
**Resolving with a memory is resolving without one.**

The memory is filled under one chain of pointers and read under others, and it outlives failures. It does
not change an answer, because of an invariant:

* a remembered pointer is on no chain, and what is remembered of it is what it stands for under every
  chain that avoids the memory (`Memo.Sound`).

A component is remembered only when everything that it leads to is remembered before it, so a chain that
avoids the memory meets no circle behind a remembered pointer. `Follows` says that a run keeps the
invariant and gives what the same resolution gives without a memory; it holds of the steps of a run
(`Follows.bind`), of a traversal (`expand_follows`) and, by induction on the pointers that are not on the
chain, of every reference (`inline?_follows`).

* `step_sound`: one resolution, from any sound memory;
* `steps_eq_map_resolveDirect`: resolutions one after another.
-/

import RouteCompiler.Proofs.Reference.Direct

namespace RouteCompiler

/-! ### The memory around a resolution -/

/-- A resolution that is looked up in the memory first and remembered when it is done. -/
def retrieve (pointer : Pointer) (resolve : Resolving Tree) : Resolving Tree := do
  match (← get).get? pointer with
  | some resolved => return resolved
  | none =>
    modify (·.start pointer)
    let resolved ← resolve
    modify (·.finish pointer resolved)
    return resolved

namespace Registry

variable {registry : Registry} {pointer : Pointer}

theorem inline?_of_none (absent : registry.body? pointer = none) (chain : List Pointer) :
    registry.inline? chain pointer = none := by
  rw [inline?]
  split
  · rfl
  · rename_i body found
    rw [absent] at found
    cases found

theorem inline?_of_body {body : Tree} (found : registry.body? pointer = some body) (chain : List Pointer) :
    registry.inline? chain pointer = some
      (if pointer ∈ chain then throw (.cyclic (chain ++ [pointer]))
      else retrieve pointer (expand (registry.inline? (chain ++ [pointer])) body)) := by
  rw [inline?]
  split
  · rename_i absent
    rw [absent] at found
    cases found
  · rename_i other same
    cases found.symm.trans same
    split <;> rfl

end Registry

/-- A remembered pointer is not resolved again. -/
theorem run_retrieve_some {pointer : Pointer} {memo : Memo} {resolved : Tree}
    (found : memo.get? pointer = some resolved) (resolve : Resolving Tree) :
    (retrieve pointer resolve).run memo = (.ok resolved, memo) := by
  have read : (get : Resolving Memo).run memo = (.ok memo, memo) := rfl
  rw [retrieve, run_bind, read]
  simp only [found]
  rfl

/-- A pointer that is not remembered is, once it is resolved. -/
theorem run_retrieve_none {pointer : Pointer} {memo : Memo} (fresh : memo.get? pointer = none)
    (resolve : Resolving Tree) :
    (retrieve pointer resolve).run memo =
      match resolve.run (memo.start pointer) with
      | (.ok resolved, later) => (.ok resolved, later.finish pointer resolved)
      | (.error failure, later) => (.error failure, later) := by
  have read : (get : Resolving Memo).run memo = (.ok memo, memo) := rfl
  have started : (modify (·.start pointer) : Resolving PUnit).run memo = (.ok ⟨⟩, memo.start pointer) := rfl
  rw [retrieve, run_bind, read]
  simp only [fresh]
  rw [run_bind, started]
  simp only [run_bind]
  rcases resolve.run (memo.start pointer) with ⟨_ | _, later⟩ <;> rfl

/-! ### The invariant -/

namespace Memo

/-- No pointer of the chain is remembered. -/
def Avoids (memo : Memo) (chain : List Pointer) : Prop :=
  ∀ pointer ∈ chain, memo.get? pointer = none

/-- What is remembered of a pointer is what it stands for under every chain that avoids the memory. -/
def Sound (registry : Registry) (memo : Memo) : Prop :=
  ∀ pointer resolved, memo.get? pointer = some resolved →
    ∀ chain, memo.Avoids chain → registry.direct? chain pointer = some (.ok resolved)

theorem sound_empty (registry : Registry) : Sound registry empty := by
  intro pointer resolved found
  cases found

theorem avoids_nil (memo : Memo) : memo.Avoids [] := by
  intro pointer member
  cases member

theorem avoids_append {memo : Memo} {chain : List Pointer} {pointer : Pointer} (avoids : memo.Avoids chain)
    (fresh : memo.get? pointer = none) : memo.Avoids (chain ++ [pointer]) := by
  intro other member
  rcases List.mem_append.mp member with onChain | last
  · exact avoids other onChain
  · rw [List.mem_singleton.mp last]
    exact fresh

theorem get?_finish (memo : Memo) (pointer other : Pointer) (body : Tree) :
    (memo.finish pointer body).get? other = if pointer = other then some body else memo.get? other :=
  OrderedMap.get?_insert memo.resolved pointer body other

/-- A pointer that is not remembered after it was put there was not remembered before. -/
theorem get?_eq_none_of_finish {memo : Memo} {pointer other : Pointer} {body : Tree}
    (fresh : (memo.finish pointer body).get? other = none) : pointer ≠ other ∧ memo.get? other = none := by
  rw [get?_finish] at fresh
  by_cases same : pointer = other
  · rw [if_pos same] at fresh
    cases fresh
  · rw [if_neg same] at fresh
    exact ⟨same, fresh⟩

end Memo

/-! ### Runs that follow a resolution without a memory -/

section Follows

variable {registry : Registry} {chain : List Pointer} {α β : Type}

/-- The outcome of a run and the memory after it, against a resolution without a memory: the invariant is
kept, nothing is forgotten, a failure is the one under this chain, and a value is that under every chain
that avoids the memory. -/
structure Tracks (registry : Registry) (chain : List Pointer) (plain : List Pointer → Except Failure α)
    (before : Memo) (outcome : Except Failure α) (after : Memo) : Prop where
  sound : after.Sound registry
  avoids : after.Avoids chain
  keeps : ∀ pointer, after.get? pointer = none → before.get? pointer = none
  failure : ∀ failure, outcome = .error failure → plain chain = .error failure
  value : ∀ value, outcome = .ok value → ∀ other, after.Avoids other → plain other = .ok value

/-- A run that tracks a resolution without a memory from every sound memory that its chain avoids. -/
def Follows (registry : Registry) (chain : List Pointer) (run : Resolving α)
    (plain : List Pointer → Except Failure α) : Prop :=
  ∀ memo, Memo.Sound registry memo → memo.Avoids chain →
    Tracks registry chain plain memo (run.run memo).1 (run.run memo).2

theorem Tracks.outcome_eq {plain : List Pointer → Except Failure α} {before after : Memo}
    {outcome : Except Failure α} (tracks : Tracks registry chain plain before outcome after) :
    outcome = plain chain := by
  cases outcome with
  | error failure => exact (tracks.failure failure rfl).symm
  | ok value => exact (tracks.value value rfl chain tracks.avoids).symm

theorem Follows.pure (value : α) : Follows registry chain (pure value) fun _ => .ok value := by
  intro memo sound avoids
  refine ⟨sound, avoids, fun _ fresh => fresh, ?_, ?_⟩
  · intro failure same
    cases same
  · intro other same _ _
    exact same

theorem Follows.throw {failure : Failure} {plain : List Pointer → Except Failure α}
    (fails : plain chain = .error failure) : Follows registry chain (throw failure) plain := by
  intro memo sound avoids
  refine ⟨sound, avoids, fun _ fresh => fresh, ?_, ?_⟩
  · intro other same
    cases same
    exact fails
  · intro value same
    cases same

/-- **One run after another.** -/
theorem Follows.bind {first : Resolving α} {next : α → Resolving β}
    {plain : List Pointer → Except Failure α} {plainNext : List Pointer → α → Except Failure β}
    (atFirst : Follows registry chain first plain)
    (atNext : ∀ value, Follows registry chain (next value) fun other => plainNext other value) :
    Follows registry chain (first >>= next) fun other => plain other >>= plainNext other := by
  intro memo sound avoids
  have tracks := atFirst memo sound avoids
  rw [run_bind]
  generalize first.run memo = ended at tracks ⊢
  obtain ⟨outcome, middle⟩ := ended
  cases outcome with
  | error failure =>
    refine ⟨tracks.sound, tracks.avoids, tracks.keeps, ?_, ?_⟩
    · intro other same
      cases same
      show plain chain >>= plainNext chain = _
      rw [tracks.failure failure rfl, error_bind]
    · intro value same
      cases same
  | ok value =>
    have later := atNext value middle tracks.sound tracks.avoids
    refine ⟨later.sound, later.avoids, fun pointer fresh =>
      tracks.keeps pointer (later.keeps pointer fresh), ?_, ?_⟩
    · intro failure same
      show plain chain >>= plainNext chain = _
      rw [tracks.value value rfl chain tracks.avoids, ok_bind]
      exact later.failure failure same
    · intro result same other avoided
      have earlier : middle.Avoids other := fun pointer member =>
        later.keeps pointer (avoided pointer member)
      show plain other >>= plainNext other = _
      rw [tracks.value value rfl other earlier, ok_bind]
      exact later.value result same other avoided

/-- A reference is known with the memory and without it or to neither, and one follows the other. -/
def FollowsReference (registry : Registry) (chain : List Pointer) (run? : Option (Resolving Tree))
    (plain? : List Pointer → Option (Except Failure Tree)) : Prop :=
  (run? = none ∧ ∀ other, plain? other = none) ∨
    ∃ run plain, run? = some run ∧ (∀ other, plain? other = some (plain other)) ∧
      Follows registry chain run plain

/-! ### Traversals -/

variable {inline? : Pointer → Option (Resolving Tree)} {plain? : List Pointer → Meaning}

theorem Follows.congr {run : Resolving α} {plain same : List Pointer → Except Failure α}
    (follows : Follows registry chain run plain) (equal : ∀ other, same other = plain other) :
    Follows registry chain run same := by
  rw [show same = plain from funext equal]
  exact follows

theorem expandItems_follows {items : List Tree}
    (each : ∀ item ∈ items,
      Follows registry chain (expand inline? item) fun other => expand (plain? other) item) :
    Follows registry chain (expandItems inline? items) fun other => expandItems (plain? other) items := by
  induction items with
  | nil => exact .pure []
  | cons item rest ih =>
    have later := ih fun other member => each other (List.mem_cons_of_mem _ member)
    rw [expandItems]
    refine Follows.congr ((each item List.mem_cons_self).bind fun first =>
      later.bind fun others => .pure (first :: others)) fun other => ?_
    rw [expandItems]
    rfl

theorem expandEntries_follows {entries : Entries}
    (each : ∀ entry ∈ entries,
      Follows registry chain (expand inline? entry.2) fun other => expand (plain? other) entry.2) :
    Follows registry chain (expandEntries inline? entries) fun other =>
      expandEntries (plain? other) entries := by
  induction entries with
  | nil => exact .pure []
  | cons entry rest ih =>
    have later := ih fun other member => each other (List.mem_cons_of_mem _ member)
    rw [expandEntries]
    refine Follows.congr ((each entry List.mem_cons_self).bind fun first =>
      later.bind fun others => .pure ((entry.1, first) :: others)) fun other => ?_
    rw [expandEntries]
    rfl

/-- **A traversal follows the one without a memory** when its references do. -/
theorem expand_follows
    (references : ∀ pointer, FollowsReference registry chain (inline? pointer) fun other =>
      plain? other pointer) (tree : Tree) :
    Follows registry chain (expand inline? tree) fun other => expand (plain? other) tree := by
  induction tree using Tree.nested_induction with
  | atomic tree atomic =>
    rw [atomic.expand_eq_pure]
    exact Follows.congr (.pure tree) fun other => atomic.expand_eq
  | list items ih =>
    rw [expand]
    refine Follows.congr ((expandItems_follows ih).bind fun results => .pure (Tree.list results))
      fun other => ?_
    rw [expand]
    rfl
  | map entries ih =>
    have values := expandEntries_follows ih
    cases isReference : reference? entries with
    | none =>
      rw [expand, known?, isReference]
      refine Follows.congr (values.bind fun results => .pure (Tree.map results)) fun other => ?_
      rw [expand, known?, isReference]
      rfl
    | some pointer =>
      rcases references pointer with ⟨absent, absentOther⟩ | ⟨run, plain, found, foundOther, follows⟩
      · rw [expand, known?, isReference, Option.bind_some, absent]
        refine Follows.congr (values.bind fun results => .pure (Tree.map results)) fun other => ?_
        rw [expand, known?, isReference, Option.bind_some,
          show plain? other pointer = none from absentOther other]
        rfl
      · rw [expand, known?, isReference, Option.bind_some, found]
        refine Follows.congr (follows.bind fun content =>
          (?_ : Follows registry chain _ fun other => refer (plain? other) entries pointer content))
          fun other => ?_
        · cases content with
          | map inner => exact values.bind fun results => .pure (Tree.map (splice inner results))
          | _ =>
            show Follows registry chain (ite _ _ _) fun _ => ite _ _ _
            split
            · exact .throw rfl
            · exact .pure _
        · exact expand_reference (known?_eq_some_iff.mpr ⟨isReference, foundOther other⟩)

/-! ### References -/

/-- **A remembered resolution follows the plain one** when it does so inside the component. -/
theorem Follows.retrieve {pointer : Pointer} {body : Tree} (found : registry.body? pointer = some body)
    (fresh : pointer ∉ chain) {resolve : Resolving Tree}
    (inside : Follows registry (chain ++ [pointer]) resolve fun other =>
      expand (registry.direct? other) body) :
    Follows registry chain (retrieve pointer resolve) fun other =>
      if pointer ∈ other then .error (.cyclic (other ++ [pointer]))
      else expand (registry.direct? (other ++ [pointer])) body := by
  have plain := Registry.direct?_of_body found
  intro memo sound avoids
  cases remembered : memo.get? pointer with
  | some resolved =>
    rw [run_retrieve_some remembered]
    refine ⟨sound, avoids, fun _ fresh => fresh, ?_, ?_⟩
    · intro failure same
      cases same
    · intro value same other avoided
      cases same
      exact Option.some.inj ((plain other).symm.trans (sound pointer _ remembered other avoided))
  | none =>
    rw [run_retrieve_none remembered]
    have tracks := inside (memo.start pointer) sound (Memo.avoids_append avoids remembered)
    generalize resolve.run (memo.start pointer) = ended at tracks ⊢
    obtain ⟨outcome, later⟩ := ended
    have avoidsLater : later.Avoids chain := fun other onChain =>
      tracks.avoids other (List.mem_append_left _ onChain)
    cases outcome with
    | error failure =>
      refine ⟨tracks.sound, avoidsLater, tracks.keeps, ?_, ?_⟩
      · intro other same
        cases same
        rw [if_neg fresh]
        exact tracks.failure failure rfl
      · intro value same
        cases same
    | ok resolved =>
      -- the pointer itself is on the chain of its body, so the memory avoids it until it is done
      have freshLater : later.get? pointer = none :=
        tracks.avoids pointer (List.mem_append_right _ List.mem_cons_self)
      have unchanged {other : List Pointer} (avoided : (later.finish pointer resolved).Avoids other) :
          later.Avoids other := fun q member => (Memo.get?_eq_none_of_finish (avoided q member)).2
      have value {other : List Pointer} (avoided : (later.finish pointer resolved).Avoids other) :
          (if pointer ∈ other then .error (.cyclic (other ++ [pointer]))
            else expand (registry.direct? (other ++ [pointer])) body) = .ok resolved := by
        have notOn : pointer ∉ other := fun member =>
          (Memo.get?_eq_none_of_finish (avoided pointer member)).1 rfl
        rw [if_neg notOn]
        exact tracks.value resolved rfl _ (Memo.avoids_append (unchanged avoided) freshLater)
      refine ⟨?_, ?_, ?_, ?_, ?_⟩
      · intro other content remembered other' avoided
        rw [Memo.get?_finish] at remembered
        by_cases same : pointer = other
        · rw [if_pos same] at remembered
          cases same
          cases remembered
          rw [plain, value avoided]
        · rw [if_neg same] at remembered
          exact tracks.sound other content remembered other' (unchanged avoided)
      · intro other onChain
        have differs : pointer ≠ other := fun same => fresh (same ▸ onChain)
        rw [Memo.get?_finish, if_neg differs]
        exact avoidsLater other onChain
      · intro other notThere
        exact tracks.keeps other (Memo.get?_eq_none_of_finish notThere).2
      · intro failure same
        cases same
      · intro other same _ avoided
        cases same
        exact value avoided

/-- **Every reference follows the one resolved without a memory.** -/
theorem inline?_follows (registry : Registry) (chain : List Pointer) (pointer : Pointer) :
    FollowsReference registry chain (registry.inline? chain pointer) fun other =>
      registry.direct? other pointer := by
  induction chain using registry.chain_induction generalizing pointer with
  | step chain ih =>
    cases found : registry.body? pointer with
    | none => exact Or.inl ⟨Registry.inline?_of_none found chain, Registry.direct?_of_none found⟩
    | some body =>
      refine Or.inr ⟨_, _, Registry.inline?_of_body found chain, Registry.direct?_of_body found, ?_⟩
      by_cases onChain : pointer ∈ chain
      · rw [if_pos onChain]
        exact .throw (if_pos onChain)
      · rw [if_neg onChain]
        refine Follows.retrieve found onChain (expand_follows (fun next => ?_) body)
        exact ih pointer (Registry.mem_pointers_of_body? found) onChain next

end Follows

/-! ### Resolutions one after another -/

/-- **One resolution from a sound memory** gives what the tree gives on its own, and leaves a sound
memory, also when it fails. -/
theorem step_sound {registry : Registry} {memo : Memo} (sound : memo.Sound registry) (tree : Tree) :
    (registry.step memo tree).1 = registry.resolveDirect tree ∧ (registry.step memo tree).2.Sound registry := by
  have tracks := expand_follows (inline?_follows registry []) tree memo sound (Memo.avoids_nil memo)
  exact ⟨tracks.outcome_eq, tracks.sound⟩

/-- Resolutions one after another from a sound memory. -/
theorem steps_eq_of_sound {registry : Registry} {memo : Memo} (sound : memo.Sound registry)
    (trees : List Tree) : registry.steps memo trees = trees.map registry.resolveDirect := by
  induction trees generalizing memo with
  | nil => rfl
  | cons tree rest ih =>
    obtain ⟨outcome, soundLater⟩ := step_sound sound tree
    rw [Registry.steps, List.map_cons, ← outcome, ← ih soundLater]

/-- **A memory changes no answer.** Trees that are resolved one after another with one memory, also after
failures, give what each gives on its own without a memory: the same value or the same failure. -/
theorem steps_eq_map_resolveDirect (registry : Registry) (trees : List Tree) :
    registry.steps .empty trees = trees.map registry.resolveDirect :=
  steps_eq_of_sound (Memo.sound_empty registry) trees

end RouteCompiler
