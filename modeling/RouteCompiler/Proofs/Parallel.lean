/-
**Two computations side by side.**

Two computations that do the same, but for a choice made on the way, are compared step by step. Both come to
values, which are related, or they fail in the same way. One thing more is allowed: the first may fail where the
second goes on, if its failure is one that the choice accounts for. The comparison is closed under the steps of a
computation, so it is carried from the choice to the end by following the text of the two. What was reported before
matters to neither.

* `Parallel`: two outcomes side by side;
* `Parallel.exists_partner`, `Parallel.eq_error`: what the outcome of the first says about the second;
* `Parallel.bind`, `Parallel.mapError`: closure under the steps;
* `Run.Parallel`: two computations that report events, whatever was reported before;
* `Run.Steady.parallel`: a computation beside itself.
-/

import RouteCompiler.Proofs.Computation

namespace RouteCompiler

/-- Two outcomes side by side: related values, or the same failure. A failure of the first that is excused stands
beside anything. -/
inductive Parallel {α β : Type} (excused : Failure → Prop) (related : α → β → Prop) :
    Except Failure α → Except Failure β → Prop
  /-- Both are values. -/
  | values {value : α} {other : β} (holds : related value other) : Parallel excused related (.ok value) (.ok other)
  /-- Both fail in the same way. -/
  | same (failure : Failure) : Parallel excused related (.error failure) (.error failure)
  /-- The first fails, which is excused. -/
  | excuse {failure : Failure} (excuses : excused failure) (outcome : Except Failure β) :
    Parallel excused related (.error failure) outcome

namespace Parallel

variable {α β γ δ : Type} {excused : Failure → Prop} {related : α → β → Prop} {further : γ → δ → Prop}

/-- An outcome stands beside itself, if its value is related to itself. -/
theorem refl {loose : α → α → Prop} {outcome : Except Failure α}
    (holds : ∀ value, outcome = .ok value → loose value value) : Parallel excused loose outcome outcome := by
  cases outcome with
  | ok value => exact .values (holds value rfl)
  | error failure => exact .same failure

/-- The relation between the values may be weakened. -/
theorem imp {weaker : α → β → Prop} {first : Except Failure α} {other : Except Failure β}
    (implies : ∀ value partner, related value partner → weaker value partner)
    (parallel : Parallel excused related first other) : Parallel excused weaker first other := by
  cases parallel with
  | values holds => exact .values (implies _ _ holds)
  | same failure => exact .same failure
  | excuse excuses => exact .excuse excuses other

/-- A value of the first has a partner that is the value of the second. -/
theorem exists_partner {other : Except Failure β} {value : α}
    (parallel : Parallel excused related (.ok value) other) :
    ∃ partner, other = .ok partner ∧ related value partner := by
  cases parallel with
  | values holds => exact ⟨_, rfl, holds⟩

/-- A failure of the first that is not excused is that of the second. -/
theorem eq_error {other : Except Failure β} {failure : Failure}
    (parallel : Parallel excused related (.error failure) other) (inexcusable : ¬ excused failure) :
    other = .error failure := by
  cases parallel with
  | same => rfl
  | excuse excuses => exact absurd excuses inexcusable

theorem bind {first : Except Failure α} {other : Except Failure β} {next : α → Except Failure γ}
    {nextOther : β → Except Failure δ} (atFirst : Parallel excused related first other)
    (atNext : ∀ value partner, related value partner → Parallel excused further (next value) (nextOther partner)) :
    Parallel excused further (first >>= next) (other >>= nextOther) := by
  cases atFirst with
  | values holds => exact atNext _ _ holds
  | same failure => exact .same failure
  | excuse excuses => exact .excuse excuses _

/-- The same change to all failures keeps what was the same. -/
theorem mapError {first : Except Failure α} {other : Except Failure β} (change : Failure → Failure)
    (atFirst : Parallel excused related first other)
    (excuses : ∀ failure, excused failure → excused (change failure)) :
    Parallel excused related (first.mapError change) (other.mapError change) := by
  cases atFirst with
  | values holds => exact .values holds
  | same failure => exact .same (change failure)
  | excuse excuse => exact .excuse (excuses _ excuse) _

end Parallel

/-! ### With events -/

namespace Run

variable {α β γ δ : Type} {excused : Failure → Prop} {related : α → β → Prop} {further : γ → δ → Prop}

/-- The outcomes of two computations stand side by side, whatever was reported before either. -/
def Parallel (excused : Failure → Prop) (related : α → β → Prop) (run : Run α) (other : Run β) : Prop :=
  ∀ before beforeOther, RouteCompiler.Parallel excused related (run.run before).1 (other.run beforeOther).1

theorem Parallel.outcome {run : Run α} {other : Run β} (parallel : Parallel excused related run other) :
    RouteCompiler.Parallel excused related run.outcome.1 other.outcome.1 :=
  parallel [] []

/-- Steady computations are compared by their outcomes. -/
theorem Parallel.of_outcome {run : Run α} {other : Run β} (steady : run.Steady) (steadyOther : other.Steady)
    (outcomes : RouteCompiler.Parallel excused related run.outcome.1 other.outcome.1) :
    Parallel excused related run other := by
  intro before beforeOther
  rwa [steady before, steadyOther beforeOther]

/-- A steady computation stands beside itself. -/
theorem Steady.parallel {run : Run α} (steady : run.Steady) : Parallel excused Eq run run :=
  .of_outcome steady steady (.refl fun _ _ => rfl)

/-- The same, with the outcome kept. -/
theorem Steady.parallel_outcome {run : Run α} (steady : run.Steady) :
    Parallel excused (fun value other => value = other ∧ run.outcome.1 = .ok value) run run :=
  .of_outcome steady steady (.refl fun _ succeeds => ⟨rfl, succeeds⟩)

theorem Parallel.ofExcept {result : Except Failure α} {other : Except Failure β}
    (parallel : RouteCompiler.Parallel excused related result other) :
    Parallel excused related (ofExcept result) (ofExcept other) :=
  fun _ _ => parallel

theorem Parallel.bind {first : Run α} {other : Run β} {next : α → Run γ} {nextOther : β → Run δ}
    (atFirst : Parallel excused related first other)
    (atNext : ∀ value partner, related value partner → Parallel excused further (next value) (nextOther partner)) :
    Parallel excused further (first >>= next) (other >>= nextOther) := by
  intro before beforeOther
  have here := atFirst before beforeOther
  rw [run_bind, run_bind]
  generalize first.run before = result at here
  generalize other.run beforeOther = resultOther at here
  obtain ⟨outcome, later⟩ := result
  obtain ⟨outcomeOther, laterOther⟩ := resultOther
  cases here with
  | values holds => exact atNext _ _ holds later laterOther
  | same failure => exact .same failure
  | excuse excuses => exact .excuse excuses _

/-- Two computations with the same value go on with it. -/
theorem Parallel.bind_eq {first other : Run α} {next : α → Run γ} {nextOther : α → Run δ}
    (atFirst : Parallel excused Eq first other)
    (atNext : ∀ value, Parallel excused further (next value) (nextOther value)) :
    Parallel excused further (first >>= next) (other >>= nextOther) :=
  atFirst.bind fun value _ same => same ▸ atNext value

theorem Parallel.pure {value : α} {other : β} (holds : related value other) :
    Parallel excused related (pure value) (pure other) :=
  fun _ _ => .values holds

/-- A computation that fails in a way that is excused stands beside every other. -/
theorem Parallel.excuse {failure : Failure} (excuses : excused failure) (other : Run β) :
    Parallel excused related (throw failure : Run α) other :=
  fun _ _ => .excuse excuses _

theorem Parallel.throw (failure : Failure) :
    Parallel excused related (throw failure : Run α) (throw failure : Run β) :=
  fun _ _ => .same failure

end Run

end RouteCompiler
