/-
**Faults of one part of a document.**

What is wrong with a schema, a parameter or an operation is a fault of that part: it cannot be compiled, or
it has a shape that nothing looks for. Everything else that stops the program, such as a missing handler or
a reference in a circle, concerns a document as a whole. The computations on a part fail with a fault alone,
and what was reported before them does not matter to their outcome. A fault that is reported as such names its
place, and the places that the computations on a part name can be told from that part.

* `Failure.IsFault`: what is wrong with one part;
* `OnlyFaults`: a computation that fails with a fault alone;
* `Run.Confined`: the same for a computation that reports events;
* `Failure.IsFaultAt`, `OnlyFaultsAt`, `Run.ConfinedTo`: the same with the places that are named, closed under the
  steps of a computation;
* `Tree.onlyFaultsAt_spelled`: a value that cannot be spelled is a fault.
-/

import RouteCompiler.Proofs.Computation

namespace RouteCompiler

/-! ### Faults -/

/-- The failure is a fault of one part of a document: its shape is wrong, or one that is not looked for. -/
inductive Failure.IsFault : Failure → Prop
  /-- The part cannot be compiled. -/
  | malformed (problem : SchemaProblem) (location : Location) : IsFault (.malformed problem location)
  /-- Nothing looks for the shape of the part. -/
  | unexpected (cause : Unexpected) : IsFault (.unexpected cause)

/-- The failure is a fault, and if it names a place, that is one of some places. -/
inductive Failure.IsFaultAt (places : Location → Prop) : Failure → Prop
  /-- The part cannot be compiled. -/
  | malformed (problem : SchemaProblem) {location : Location} (here : places location) :
    IsFaultAt places (.malformed problem location)
  /-- Nothing looks for the shape of the part. -/
  | unexpected (cause : Unexpected) : IsFaultAt places (.unexpected cause)

theorem Failure.isFault_iff {failure : Failure} : failure.IsFault ↔ failure.IsFaultAt fun _ => True := by
  constructor
  · rintro (⟨problem, location⟩ | cause)
    · exact .malformed problem trivial
    · exact .unexpected cause
  · rintro (⟨problem, _⟩ | cause)
    · exact .malformed problem _
    · exact .unexpected cause

theorem Failure.isFaultAt_ofProblem {places : Location → Prop} (problem : SchemaProblem) {location : Location}
    (here : places location) : (Failure.ofProblem problem location).IsFaultAt places := by
  unfold Failure.ofProblem
  split
  · exact .malformed problem here
  · exact .unexpected .numberTooLong

/-- Nothing but a fault makes the computation fail. -/
def OnlyFaults {α : Type} (outcome : Except Failure α) : Prop :=
  ∀ failure, outcome = .error failure → failure.IsFault

/-- Nothing but a fault at one of the places makes the computation fail. -/
def OnlyFaultsAt {α : Type} (places : Location → Prop) (outcome : Except Failure α) : Prop :=
  ∀ failure, outcome = .error failure → failure.IsFaultAt places

namespace OnlyFaultsAt
variable {α β : Type} {places : Location → Prop}

theorem ok (value : α) : OnlyFaultsAt places (.ok value) := by
  intro failure same
  cases same

theorem error {failure : Failure} (fault : failure.IsFaultAt places) :
    OnlyFaultsAt (α := α) places (.error failure) := by
  intro other same
  cases same
  exact fault

theorem bind {first : Except Failure α} {next : α → Except Failure β} (atFirst : OnlyFaultsAt places first)
    (atNext : ∀ value, OnlyFaultsAt places (next value)) : OnlyFaultsAt places (first >>= next) := by
  intro failure failed
  rcases bind_error_iff.mp failed with here | ⟨value, _, later⟩
  · exact atFirst failure here
  · exact atNext value failure later

theorem mapM {step : α → Except Failure β} {items : List α}
    (each : ∀ item ∈ items, OnlyFaultsAt places (step item)) : OnlyFaultsAt places (items.mapM step) := by
  intro failure failed
  obtain ⟨item, member, atItem⟩ := mapM_error failed
  exact each item member failure atItem

end OnlyFaultsAt

/-- A computation on one part of a document: what was reported before does not decide its outcome, and nothing
but a fault makes it fail. -/
structure Run.Confined {α : Type} (run : Run α) : Prop where
  steady : run.Steady
  faults : OnlyFaults run.outcome.1

/-- A computation on one part of a document that names some places alone. -/
structure Run.ConfinedTo {α : Type} (places : Location → Prop) (run : Run α) : Prop where
  steady : run.Steady
  faults : OnlyFaultsAt places run.outcome.1

namespace Run.ConfinedTo
variable {α β : Type} {places : Location → Prop}

theorem bind {first : Run α} {next : α → Run β} (atFirst : first.ConfinedTo places)
    (atNext : ∀ value, (next value).ConfinedTo places) : (first >>= next).ConfinedTo places where
  steady := atFirst.steady.bind fun value => (atNext value).steady
  faults := by
    rw [outcome_bind first fun value => (atNext value).steady]
    exact atFirst.faults.bind fun value => (atNext value).faults

theorem pure (value : α) : (pure value : Run α).ConfinedTo places :=
  ⟨.pure value, .ok value⟩

theorem throw {failure : Failure} (fault : failure.IsFaultAt places) :
    (throw failure : Run α).ConfinedTo places :=
  ⟨.throw failure, .error fault⟩

theorem ofExcept {result : Except Failure α} (faults : OnlyFaultsAt places result) :
    (ofExcept result).ConfinedTo places :=
  ⟨.ofExcept result, faults⟩

theorem report (event : Event) : (report event).ConfinedTo places :=
  ⟨.reportAll [event], .ok ()⟩

end Run.ConfinedTo

namespace Run.Confined
variable {α β : Type}

/-- A computation is confined when it is confined to all places. -/
theorem iff_confinedTo {run : Run α} : run.Confined ↔ run.ConfinedTo fun _ => True := by
  have same : OnlyFaults run.outcome.1 ↔ OnlyFaultsAt (fun _ => True) run.outcome.1 :=
    forall_congr' fun failure => imp_congr_right fun _ => failure.isFault_iff
  exact ⟨fun confined => ⟨confined.steady, same.mp confined.faults⟩,
    fun confined => ⟨confined.steady, same.mpr confined.faults⟩⟩

theorem bind {first : Run α} {next : α → Run β} (atFirst : first.Confined)
    (atNext : ∀ value, (next value).Confined) : (first >>= next).Confined :=
  iff_confinedTo.mpr ((iff_confinedTo.mp atFirst).bind fun value => iff_confinedTo.mp (atNext value))

theorem pure (value : α) : (pure value : Run α).Confined :=
  iff_confinedTo.mpr (.pure value)

theorem throw {failure : Failure} (fault : failure.IsFault) : (throw failure : Run α).Confined :=
  iff_confinedTo.mpr (.throw (Failure.isFault_iff.mp fault))

theorem report (event : Event) : (report event).Confined :=
  iff_confinedTo.mpr (.report event)

end Run.Confined

theorem Run.ConfinedTo.confined {α : Type} {places : Location → Prop} {run : Run α}
    (confined : run.ConfinedTo places) : run.Confined := by
  refine ⟨confined.steady, fun failure failed => ?_⟩
  cases confined.faults failure failed with
  | malformed problem here => exact .malformed problem _
  | unexpected cause => exact .unexpected cause

/-! ### Texts -/

/-- A value has no text only if a number in it has too many digits. -/
theorem Tree.spelled_error {tree : Tree} {failure : Failure} (failed : tree.spelled = .error failure) :
    failure = .unexpected .numberTooLong := by
  unfold spelled at failed
  split at failed
  · cases failed
  · exact (Except.error.inj failed).symm

theorem Tree.onlyFaultsAt_spelled {places : Location → Prop} (tree : Tree) : OnlyFaultsAt places tree.spelled := by
  intro failure failed
  rw [Tree.spelled_error failed]
  exact .unexpected _

theorem Scalar.onlyFaultsAt_spelled {places : Location → Prop} (value : Scalar) :
    OnlyFaultsAt places value.spelled :=
  Tree.onlyFaultsAt_spelled (.scalar value)

end RouteCompiler
