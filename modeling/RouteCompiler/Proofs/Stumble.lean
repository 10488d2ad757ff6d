/-
**Shapes that are not looked for.**

Most parts of a document are asked whether they have their shape, and are refused if they have not. Where that is not
asked, a part of another shape ends the computation as well, but not with a failure of its own. Such a computation is
said to stumble. It does so at the first of its steps that does.

* `Stumbles`: computations that end with a shape that is not looked for;
* `Stumbles.bind_iff`, `Stumbles.mapM_iff`: the step that a computation stumbles in;
* `Tree.stumbles_spelled_iff`: values that cannot be spelled;
* `FailsBy`: computations that fail in one way, unless they stumble.
-/

import RouteCompiler.Proofs.Computation

namespace RouteCompiler

/-- The computation ends with a shape that is not looked for. -/
def Stumbles {α : Type} (outcome : Except Failure α) : Prop :=
  ∃ cause, outcome = .error (.unexpected cause)

namespace Stumbles

variable {α β : Type}

theorem not_ok (value : α) : ¬ Stumbles (.ok value) :=
  nofun

theorem not_pure (value : α) : ¬ Stumbles (pure value) :=
  not_ok value

theorem not_malformed (problem : SchemaProblem) (location : Location) :
    ¬ Stumbles (.error (.malformed problem location) : Except Failure α) := by
  rintro ⟨_, same⟩
  cases same

theorem not_ofProblem {problem : SchemaProblem} {location : Location} (spells : problem.isSpellable = true)
    (spelled : location.isSpellable = true) :
    ¬ Stumbles (.error (.ofProblem problem location) : Except Failure α) := by
  rw [Failure.ofProblem, spells, spelled]
  exact not_malformed problem location

theorem unexpected (cause : Unexpected) : Stumbles (.error (.unexpected cause) : Except Failure α) :=
  ⟨cause, rfl⟩

/-- A computation stumbles in its first step, or in the second on the value of the first. -/
theorem bind_iff {first : Except Failure α} {next : α → Except Failure β} :
    Stumbles (first >>= next) ↔ Stumbles first ∨ ∃ value, first = .ok value ∧ Stumbles (next value) := by
  unfold Stumbles
  simp only [bind_error_iff]
  constructor
  · rintro ⟨cause, here | ⟨value, atFirst, later⟩⟩
    · exact Or.inl ⟨cause, here⟩
    · exact Or.inr ⟨value, atFirst, cause, later⟩
  · rintro (⟨cause, here⟩ | ⟨value, atFirst, cause, later⟩)
    · exact ⟨cause, Or.inl here⟩
    · exact ⟨cause, Or.inr ⟨value, atFirst, later⟩⟩

/-- Where the second step never stumbles, it is the first that does. -/
theorem bind_iff_left {first : Except Failure α} {next : α → Except Failure β}
    (never : ∀ value, ¬ Stumbles (next value)) : Stumbles (first >>= next) ↔ Stumbles first :=
  bind_iff.trans (or_iff_left fun ⟨value, _, later⟩ => never value later)

theorem bind_pure_iff {first : Except Failure α} {next : α → β} :
    Stumbles (first >>= fun value => pure (next value)) ↔ Stumbles first :=
  bind_iff_left fun _ => not_ok _

theorem map_iff {change : α → β} {outcome : Except Failure α} : Stumbles (outcome.map change) ↔ Stumbles outcome :=
  exists_congr fun _ => map_error_iff

/-- What is reported before does not matter, and a step that only makes a value of another never stumbles. -/
theorem run_bind_pure_iff {first : Run α} {next : α → β} :
    Stumbles (first >>= fun value => pure (next value)).outcome.1 ↔ Stumbles first.outcome.1 := by
  rw [Run.outcome_bind _ fun _ => .pure _]
  exact bind_iff_left fun _ => not_ok _

/-- A list stumbles at the first item without a value. -/
theorem mapM_iff {step : α → Except Failure β} {items : List α} :
    Stumbles (items.mapM step) ↔
      ∃ before item after, items = before ++ item :: after ∧
        (∀ other ∈ before, ∃ result, step other = .ok result) ∧ Stumbles (step item) := by
  unfold Stumbles
  simp only [mapM_error_iff]
  constructor
  · rintro ⟨cause, before, item, after, split, settled, atItem⟩
    exact ⟨before, item, after, split, settled, cause, atItem⟩
  · rintro ⟨before, item, after, split, settled, cause, atItem⟩
    exact ⟨cause, before, item, after, split, settled, atItem⟩

end Stumbles

/-- Spelling stumbles over numbers of too many digits. -/
theorem Tree.stumbles_spelled_iff {tree : Tree} : Stumbles tree.spelled ↔ tree.isSpellable = false := by
  unfold spelled
  split
  · rename_i spellable
    exact iff_of_false (Stumbles.not_ok _) (by simp [spellable])
  · rename_i unspellable
    exact iff_of_true (.unexpected _) (Bool.eq_false_iff.mpr unspellable)

/-! ### One kind of failures -/

/-- Nothing but failures of one kind makes the computation fail, unless it stumbles. -/
def FailsBy {α : Type} (kind : Failure → Prop) (outcome : Except Failure α) : Prop :=
  ∀ failure, outcome = .error failure → kind failure ∨ ∃ cause, failure = .unexpected cause

namespace FailsBy

variable {α β : Type} {kind : Failure → Prop}

theorem ok (value : α) : FailsBy kind (.ok value) :=
  nofun

theorem error {failure : Failure} (ofKind : kind failure) : FailsBy kind (.error failure : Except Failure α) := by
  intro other same
  cases same
  exact .inl ofKind

theorem unexpected (cause : Unexpected) : FailsBy kind (.error (.unexpected cause) : Except Failure α) := by
  intro other same
  cases same
  exact .inr ⟨cause, rfl⟩

/-- What a computation of another kind of failures fails with, is made a failure of the kind. -/
theorem mapError {ε : Type} {outcome : Except ε α} {change : ε → Failure} (ofKind : ∀ cause, kind (change cause)) :
    FailsBy kind (outcome.mapError change) := by
  cases outcome with
  | ok value => exact .ok value
  | error cause => exact .error (ofKind cause)

theorem mono {other : Failure → Prop} {outcome : Except Failure α} (fails : FailsBy kind outcome)
    (weaker : ∀ failure, kind failure → other failure) : FailsBy other outcome :=
  fun failure failed => (fails failure failed).imp_left (weaker failure)

theorem map {change : α → β} {outcome : Except Failure α} (fails : FailsBy kind outcome) :
    FailsBy kind (outcome.map change) :=
  fun failure failed => fails failure (map_error_iff.mp failed)

theorem bind {first : Except Failure α} {next : α → Except Failure β} (atFirst : FailsBy kind first)
    (atNext : ∀ value, FailsBy kind (next value)) : FailsBy kind (first >>= next) := by
  intro failure failed
  rcases bind_error_iff.mp failed with here | ⟨value, _, later⟩
  · exact atFirst failure here
  · exact atNext value failure later

end FailsBy

end RouteCompiler
