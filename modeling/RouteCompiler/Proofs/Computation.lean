/-
**Outcomes of computations.**

A computation that may fail is opened from its result: a value comes from values of both steps, a
failure from the first step that fails. With a state, the second step starts where the first one ended.

* `bind_ok_iff`, `bind_error_iff`: what a result says about the two steps of a computation;
* `map_ok_iff`, `map_error_iff`, `mapError_ok_iff`, `mapError_error_iff`: the same for a value or a failure
  that is changed;
* `mapM_ok_iff`, `mapM_error_iff`, `exists_mapM_iff`: what the result of a list says about its items;
* `mapM_eq_some_iff`: the same for values that may be absent;
* `run_bind`, `run_bind_ok_iff`: the same for a computation with a state that outlives a failure;
* `Run.run_ofExcept`, `Run.run_reportAll`: what the computations that report events are made of;
* `Run.Steady`, `Run.outcome_bind`: what was reported before does not matter to the outcome, which is
  then that of the outcomes of the steps.
-/

import Mathlib.Data.List.Forall2
import RouteCompiler.Event

namespace RouteCompiler

/-! ### Without a state -/

section Except

variable {ε α β : Type}

theorem ok_bind (value : α) (next : α → Except ε β) : (Except.ok value >>= next) = next value :=
  rfl

theorem error_bind (failure : ε) (next : α → Except ε β) :
    (Except.error failure >>= next) = .error failure :=
  rfl

/-- A value comes from values of both steps. -/
theorem bind_ok_iff {first : Except ε α} {next : α → Except ε β} {result : β} :
    (first >>= next) = .ok result ↔ ∃ value, first = .ok value ∧ next value = .ok result := by
  cases first with
  | error failure => simp [error_bind]
  | ok value => simp [ok_bind]

/-- A failure is that of the first step, or that of the second on the value of the first. -/
theorem bind_error_iff {first : Except ε α} {next : α → Except ε β} {failure : ε} :
    (first >>= next) = .error failure ↔
      first = .error failure ∨ ∃ value, first = .ok value ∧ next value = .error failure := by
  cases first with
  | error other => simp [error_bind]
  | ok value => simp [ok_bind]

/-- A value that is changed comes from a value. -/
theorem map_ok_iff {change : α → β} {outcome : Except ε α} {result : β} :
    outcome.map change = .ok result ↔ ∃ value, outcome = .ok value ∧ change value = result := by
  cases outcome with
  | error failure => simp [Except.map]
  | ok value => simp [Except.map]

/-- A change of values changes no failure. -/
theorem map_error_iff {change : α → β} {outcome : Except ε α} {failure : ε} :
    outcome.map change = .error failure ↔ outcome = .error failure := by
  cases outcome with
  | error other => simp [Except.map]
  | ok value => simp [Except.map]

/-- A change of failures changes no value. -/
theorem mapError_ok_iff {ε' : Type} {change : ε → ε'} {outcome : Except ε α} {value : α} :
    outcome.mapError change = .ok value ↔ outcome = .ok value := by
  cases outcome with
  | error failure => simp [Except.mapError]
  | ok other => simp [Except.mapError]

/-- A list of values comes from a value of each item. -/
theorem mapM_ok_iff {step : α → Except ε β} {items : List α} {results : List β} :
    items.mapM step = .ok results ↔
      List.Forall₂ (fun item result => step item = .ok result) items results := by
  induction items generalizing results with
  | nil =>
    rw [List.mapM_nil, List.forall₂_nil_left_iff]
    exact ⟨fun same => (Except.ok.inj same).symm, fun same => by rw [same]; rfl⟩
  | cons item rest ih =>
    rw [List.mapM_cons, bind_ok_iff, List.forall₂_cons_left_iff]
    constructor
    · rintro ⟨first, atFirst, later⟩
      obtain ⟨others, atOthers, same⟩ := bind_ok_iff.mp later
      exact ⟨first, others, atFirst, ih.mp atOthers, (Except.ok.inj same).symm⟩
    · rintro ⟨first, others, atFirst, atOthers, rfl⟩
      exact ⟨first, atFirst, bind_ok_iff.mpr ⟨others, ih.mpr atOthers, rfl⟩⟩

/-- **A list fails with the first item that fails.** All items before it have values; those after it do not matter. -/
theorem mapM_error_iff {step : α → Except ε β} {items : List α} {failure : ε} :
    items.mapM step = .error failure ↔
      ∃ before item after, items = before ++ item :: after ∧
        (∀ other ∈ before, ∃ result, step other = .ok result) ∧ step item = .error failure := by
  induction items with
  | nil =>
    rw [List.mapM_nil]
    refine ⟨nofun, ?_⟩
    rintro ⟨before, item, after, split, _⟩
    cases before <;> cases split
  | cons first rest ih =>
    rw [List.mapM_cons, bind_error_iff]
    constructor
    · rintro (here | ⟨result, atFirst, later⟩)
      · exact ⟨[], first, rest, rfl, List.forall_mem_nil _, here⟩
      · rcases bind_error_iff.mp later with atRest | ⟨_, _, same⟩
        · obtain ⟨before, item, after, rfl, settled, atItem⟩ := ih.mp atRest
          exact ⟨first :: before, item, after, rfl, List.forall_mem_cons.mpr ⟨⟨result, atFirst⟩, settled⟩, atItem⟩
        · cases same
    · rintro ⟨before, item, after, split, settled, atItem⟩
      cases before with
      | nil =>
        cases split
        exact Or.inl atItem
      | cons _ before =>
        cases split
        obtain ⟨⟨result, atFirst⟩, settledRest⟩ := List.forall_mem_cons.mp settled
        refine Or.inr ⟨result, atFirst, bind_error_iff.mpr (Or.inl (ih.mpr ?_))⟩
        exact ⟨before, item, after, rfl, settledRest, atItem⟩

/-- A list fails with one of its items. -/
theorem mapM_error {step : α → Except ε β} {items : List α} {failure : ε}
    (failed : items.mapM step = .error failure) : ∃ item ∈ items, step item = .error failure := by
  obtain ⟨before, item, after, rfl, _, atItem⟩ := mapM_error_iff.mp failed
  exact ⟨item, List.mem_append_right _ List.mem_cons_self, atItem⟩

/-- A list of values is there when every item has a value. -/
theorem exists_mapM_iff {step : α → Except ε β} {items : List α} :
    (∃ results, items.mapM step = .ok results) ↔ ∀ item ∈ items, ∃ result, step item = .ok result := by
  constructor
  · rintro ⟨results, matched⟩
    induction items generalizing results with
    | nil => exact fun item member => nomatch member
    | cons item rest ih =>
      obtain ⟨result, others, here, later, _⟩ := List.forall₂_cons_left_iff.mp (mapM_ok_iff.mp matched)
      exact List.forall_mem_cons.mpr ⟨⟨result, here⟩, ih others (mapM_ok_iff.mpr later)⟩
  · intro each
    induction items with
    | nil => exact ⟨[], rfl⟩
    | cons item rest ih =>
      obtain ⟨⟨result, here⟩, later⟩ := List.forall_mem_cons.mp each
      obtain ⟨results, matched⟩ := ih later
      exact ⟨result :: results, mapM_ok_iff.mpr (.cons here (mapM_ok_iff.mp matched))⟩

end Except

/-! ### Absent values -/

/-- A list of values comes from a value of each item. -/
theorem mapM_eq_some_iff {α β : Type} {step : α → Option β} {items : List α} {results : List β} :
    items.mapM step = some results ↔ List.Forall₂ (fun item result => step item = some result) items results := by
  induction items generalizing results with
  | nil =>
    rw [List.mapM_nil, List.forall₂_nil_left_iff]
    exact ⟨fun same => (Option.some.inj same).symm, fun same => by rw [same]; rfl⟩
  | cons item rest ih =>
    rw [List.mapM_cons, List.forall₂_cons_left_iff]
    constructor
    · intro made
      obtain ⟨first, atFirst, later⟩ := Option.bind_eq_some_iff.mp made
      obtain ⟨others, atOthers, same⟩ := Option.bind_eq_some_iff.mp later
      exact ⟨first, others, atFirst, ih.mp atOthers, (Option.some.inj same).symm⟩
    · rintro ⟨first, others, atFirst, atOthers, rfl⟩
      exact Option.bind_eq_some_iff.mpr ⟨first, atFirst, Option.bind_eq_some_iff.mpr ⟨others, ih.mpr atOthers, rfl⟩⟩

/-! ### With a state -/

section State

variable {σ ε α β : Type}

/-- The second step starts in the state of the first; a failure ends the run and keeps the state. -/
theorem run_bind (first : ExceptT ε (StateM σ) α) (next : α → ExceptT ε (StateM σ) β) (state : σ) :
    (first >>= next).run state =
      match first.run state with
      | (.ok value, later) => (next value).run later
      | (.error failure, later) => (.error failure, later) := by
  change (match first.run state with
    | (outcome, later) => ExceptT.bindCont next outcome later) = _
  rcases first.run state with ⟨_ | _, later⟩ <;> rfl

/-- A value comes from values of both steps, the second one in the state of the first. -/
theorem run_bind_ok_iff {first : ExceptT ε (StateM σ) α} {next : α → ExceptT ε (StateM σ) β} {state : σ}
    {result : β} :
    ((first >>= next).run state).1 = .ok result ↔
      ∃ value, (first.run state).1 = .ok value ∧ ((next value).run (first.run state).2).1 = .ok result := by
  rw [run_bind]
  rcases first.run state with ⟨failure | value, later⟩
  · constructor
    · intro failed
      cases failed
    · rintro ⟨_, failed, _⟩
      cases failed
  · constructor
    · exact fun succeeded => ⟨value, rfl, succeeded⟩
    · rintro ⟨_, same, succeeded⟩
      cases same
      exact succeeded

end State

namespace Run

theorem run_ofExcept {α : Type} (result : Except Failure α) (events : List Event) :
    (ofExcept result).run events = (result, events) :=
  rfl

theorem run_reportAll (reported events : List Event) :
    (reportAll reported).run events = (.ok (), events ++ reported) :=
  rfl

variable {α β : Type}

/-- What was reported before does not decide the outcome of a computation. -/
def Steady (run : Run α) : Prop :=
  ∀ events, (run.run events).1 = run.outcome.1

/-- Where the second step is steady, the outcome is that of the two outcomes. -/
theorem outcome_bind (first : Run α) {next : α → Run β} (steady : ∀ value, (next value).Steady) :
    (first >>= next).outcome.1 = first.outcome.1 >>= fun value => (next value).outcome.1 := by
  unfold outcome
  rw [run_bind]
  rcases first.run [] with ⟨failure | value, later⟩
  · rfl
  · exact steady value later

theorem Steady.bind {first : Run α} {next : α → Run β} (steady : first.Steady)
    (steadyNext : ∀ value, (next value).Steady) : (first >>= next).Steady := by
  intro events
  rw [outcome_bind first steadyNext, run_bind, ← steady events]
  rcases first.run events with ⟨failure | value, later⟩
  · rfl
  · exact steadyNext value later

theorem Steady.pure (value : α) : (pure value : Run α).Steady :=
  fun _ => rfl

theorem Steady.throw (failure : Failure) : (throw failure : Run α).Steady :=
  fun _ => rfl

theorem Steady.ofExcept (result : Except Failure α) : (ofExcept result).Steady :=
  fun _ => rfl

theorem Steady.reportAll (reported : List Event) : (reportAll reported).Steady :=
  fun _ => rfl

/-- A report before a computation does not change its outcome. -/
theorem outcome_report_bind (event : Event) {next : Unit → Run α} (steady : (next ()).Steady) :
    (report event >>= next).outcome.1 = (next ()).outcome.1 := by
  rw [outcome_bind _ fun _ => steady]
  rfl

/-- A report after a computation does not change its outcome. -/
theorem outcome_bind_report (first : Run α) (event : α → Event) :
    (first >>= fun value => report (event value) >>= fun _ => pure value).outcome.1 = first.outcome.1 := by
  unfold outcome
  rw [run_bind]
  rcases first.run [] with ⟨failure | value, later⟩
  · rfl
  · rfl

end Run

end RouteCompiler
