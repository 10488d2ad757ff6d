/-
**Every component is resolved once.**

A component is reported when its resolution starts, which it does only if the component is not remembered. So at any
time the components that have been reported are those that are remembered and those on the chain, which are being
resolved (`Memo.Reports`). A failure ends the run, and then nothing else is reported.

A run that ends with a value has come by all references of the tree, also by those inside components and by those
beside `$ref` whose values are dropped. So a document that is resolved has its registered references reported, and
since the components stand in the document, no others.

* `Memo.Reports`: the invariant, and what starting and finishing a component does to it;
* `Progress`, `Visits`: what a run reports, closed under the steps of a run;
* `expand_visits`, `inline?_visits`: a traversal, and a reference under any chain;
* `resolveDocument_events`, `mem_inlined_iff`: what is reported of a document;
* `inlined_once`: each component at most once, and exactly the registered references of the document.
-/

import Mathlib.Data.List.Count
import Mathlib.Data.List.Nodup
import RouteCompiler.Proofs.Reference.Sites

namespace RouteCompiler

/-! ### Reported components -/

namespace Memo

/-- The components that have been reported, each once, are those that are remembered and those on the chain. -/
structure Reports (memo : Memo) (chain : List Pointer) : Prop where
  nodup : memo.inlined.Nodup
  mem_iff : ∀ pointer, pointer ∈ memo.inlined ↔ memo.get? pointer ≠ none ∨ pointer ∈ chain

variable {memo : Memo} {chain : List Pointer} {pointer : Pointer}

theorem reports_empty : empty.Reports [] := by
  refine ⟨.nil, fun pointer => ?_⟩
  have nothing : empty.get? pointer = none := rfl
  rw [nothing]
  simp [empty]

/-- A component that is started is reported for the first time. -/
theorem Reports.start (reports : memo.Reports chain) (fresh : memo.get? pointer = none) (notOn : pointer ∉ chain) :
    (memo.start pointer).Reports (chain ++ [pointer]) := by
  have unreported : pointer ∉ memo.inlined := by
    rw [reports.mem_iff, not_or]
    exact ⟨fun known => known fresh, notOn⟩
  refine ⟨reports.nodup.append (List.nodup_singleton pointer) (List.disjoint_singleton.mpr unreported), ?_⟩
  intro other
  show other ∈ memo.inlined ++ [pointer] ↔ memo.get? other ≠ none ∨ _
  rw [List.mem_append, List.mem_append, reports.mem_iff, or_assoc]

/-- A component that is finished is remembered instead of being on the chain. -/
theorem Reports.finish (reports : memo.Reports (chain ++ [pointer])) (body : Tree) :
    (memo.finish pointer body).Reports chain := by
  refine ⟨reports.nodup, fun other => ?_⟩
  show other ∈ memo.inlined ↔ _
  rw [reports.mem_iff, get?_finish, List.mem_append, List.mem_singleton]
  by_cases same : pointer = other
  · simp [same]
  · simp [same, Ne.symm same]

end Memo

/-! ### What a run reports -/

section Visits

variable {registry : Registry} {scope chain : List Pointer} {α β : Type}

/-- The memory before and after a run that ends with a value: nothing is forgotten, all components among the
pointers that it has come by have been reported, and only components within the scope. -/
structure Progress (registry : Registry) (scope chain seen : List Pointer) (before after : Memo) : Prop where
  reports : after.Reports chain
  grows : before.inlined ⊆ after.inlined
  visited : ∀ pointer ∈ seen, pointer ∈ registry.pointers → pointer ∈ after.inlined
  within : ∀ pointer ∈ after.inlined,
    pointer ∈ before.inlined ∨ (pointer ∈ registry.pointers ∧ pointer ∈ scope)

/-- A run reports no component twice, and comes by some pointers when it ends with a value. -/
def Visits (registry : Registry) (scope chain seen : List Pointer) (run : Resolving α) : Prop :=
  ∀ memo, memo.Reports chain → (run.run memo).2.inlined.Nodup ∧
    ∀ value, (run.run memo).1 = .ok value → Progress registry scope chain seen memo (run.run memo).2

theorem Progress.refl {memo : Memo} (reports : memo.Reports chain) : Progress registry scope chain [] memo memo :=
  ⟨reports, List.Subset.refl _, nofun, fun _ reported => Or.inl reported⟩

theorem Progress.trans {seen later : List Pointer} {before middle after : Memo}
    (first : Progress registry scope chain seen before middle)
    (second : Progress registry scope chain later middle after) :
    Progress registry scope chain (seen ++ later) before after := by
  refine ⟨second.reports, List.Subset.trans first.grows second.grows, fun pointer came registered => ?_, ?_⟩
  · rcases List.mem_append.mp came with early | late
    · exact second.grows (first.visited pointer early registered)
    · exact second.visited pointer late registered
  · intro pointer reported
    rcases second.within pointer reported with early | added
    · exact first.within pointer early
    · exact Or.inr added

theorem Visits.pure (value : α) : Visits registry scope chain [] (pure value) :=
  fun _ reports => ⟨reports.nodup, fun _ _ => .refl reports⟩

theorem Visits.throw (failure : Failure) (seen : List Pointer) :
    Visits registry scope chain seen (throw failure : Resolving α) := by
  refine fun memo reports => ⟨reports.nodup, fun value same => ?_⟩
  cases same

/-- **One run after another.** -/
theorem Visits.bind {seen later : List Pointer} {first : Resolving α} {next : α → Resolving β}
    (atFirst : Visits registry scope chain seen first)
    (atNext : ∀ value, Visits registry scope chain later (next value)) :
    Visits registry scope chain (seen ++ later) (first >>= next) := by
  intro memo reports
  obtain ⟨nodup, progress⟩ := atFirst memo reports
  rw [run_bind]
  generalize first.run memo = ended at nodup progress ⊢
  obtain ⟨failure | value, middle⟩ := ended
  · refine ⟨nodup, fun value same => ?_⟩
    cases same
  · have early := progress value rfl
    obtain ⟨nodupLater, progressLater⟩ := atNext value middle early.reports
    exact ⟨nodupLater, fun result same => early.trans (progressLater result same)⟩

/-- A value that is changed. -/
theorem Visits.map {seen : List Pointer} {run : Resolving α} (visits : Visits registry scope chain seen run)
    (change : α → β) : Visits registry scope chain seen (run >>= fun value => Pure.pure (change value)) := by
  have unchanged (value : α) : Visits registry scope chain [] (Pure.pure (change value)) := .pure (change value)
  have both := visits.bind unchanged
  rwa [List.append_nil] at both

/-- Pointers that are not registered need not be come by. -/
theorem Visits.weaken {seen more : List Pointer} {run : Resolving α} (visits : Visits registry scope chain seen run)
    (registered : ∀ pointer ∈ more, pointer ∈ registry.pointers → pointer ∈ seen) :
    Visits registry scope chain more run := by
  intro memo reports
  obtain ⟨nodup, progress⟩ := visits memo reports
  refine ⟨nodup, fun value same => ?_⟩
  have ended := progress value same
  exact ⟨ended.reports, ended.grows,
    fun pointer came known => ended.visited pointer (registered pointer came known) known, ended.within⟩

/-! ### Traversals -/

variable {inline? : Pointer → Option (Resolving Tree)}

theorem expandItems_visits {items : List Tree}
    (each : ∀ item ∈ items, Visits registry scope chain (occurrences item) (expand inline? item)) :
    Visits registry scope chain (occurrencesItems items) (expandItems inline? items) := by
  induction items with
  | nil =>
    rw [expandItems, occurrencesItems]
    exact .pure []
  | cons item rest ih =>
    obtain ⟨here, later⟩ := List.forall_mem_cons.mp each
    rw [expandItems, occurrencesItems]
    exact here.bind fun first => (ih later).map fun others => first :: others

theorem expandEntries_visits {entries : Entries}
    (each : ∀ entry ∈ entries, Visits registry scope chain (occurrences entry.2) (expand inline? entry.2)) :
    Visits registry scope chain (occurrencesEntries entries) (expandEntries inline? entries) := by
  induction entries with
  | nil =>
    rw [expandEntries, occurrencesEntries]
    exact .pure []
  | cons entry rest ih =>
    obtain ⟨here, later⟩ := List.forall_mem_cons.mp each
    rw [expandEntries, occurrencesEntries]
    exact here.bind fun first => (ih later).map fun others => (entry.1, first) :: others

/-- **A traversal comes by the references of a tree** when each of them does. -/
theorem expand_visits (unknown : ∀ pointer, inline? pointer = none → pointer ∉ registry.pointers)
    (known : ∀ pointer ∈ scope, ∀ run, inline? pointer = some run → Visits registry scope chain [pointer] run)
    (tree : Tree) (inside : occurrences tree ⊆ scope) :
    Visits registry scope chain (occurrences tree) (expand inline? tree) := by
  induction tree using Tree.nested_induction with
  | atomic tree atomic =>
    rw [atomic.expand_eq_pure, atomic.occurrences_eq]
    exact .pure tree
  | list items ih =>
    rw [expand, occurrences]
    refine (expandItems_visits fun item member => ih item member fun pointer found => ?_).map Tree.list
    exact inside (mem_occurrences_list.mpr ⟨item, member, found⟩)
  | map entries ih =>
    have values := expandEntries_visits fun entry member => ih entry member fun pointer found =>
      inside (mem_occurrences_map.mpr (Or.inr ⟨entry, member, found⟩))
    rw [occurrences]
    cases isReference : reference? entries with
    | none =>
      rw [expand, known?, isReference]
      exact values.map Tree.map
    | some pointer =>
      cases found : inline? pointer with
      | none =>
        rw [expand, known?, isReference, Option.bind_some, found]
        refine (values.map Tree.map).weaken fun other came registered => ?_
        rcases List.mem_cons.mp came with rfl | later
        · exact absurd registered (unknown other found)
        · exact later
      | some run =>
        have inScope : pointer ∈ scope := inside (mem_occurrences_map.mpr (Or.inl isReference))
        rw [expand, known?, isReference, Option.bind_some, found]
        refine (known pointer inScope run found).bind fun content => ?_
        cases content with
        | map content => exact values.map fun results => Tree.map (splice content results)
        | _ =>
          show Visits registry scope chain _ (ite _ _ _)
          split
          · exact .throw _ _
          · rename_i alone
            -- the only entry is the reference itself, and there is nothing inside a text
            rw [eq_singleton_of_reference isReference alone]
            exact .pure _

/-! ### References -/

/-- A component is reported once when the components inside it are. -/
theorem Visits.retrieve {pointer : Pointer} {resolve : Resolving Tree} (registered : pointer ∈ registry.pointers)
    (inScope : pointer ∈ scope) (notOn : pointer ∉ chain) {seen : List Pointer}
    (inside : Visits registry scope (chain ++ [pointer]) seen resolve) :
    Visits registry scope chain [pointer] (retrieve pointer resolve) := by
  intro memo reports
  cases remembered : memo.get? pointer with
  | some resolved =>
    rw [run_retrieve_some remembered]
    refine ⟨reports.nodup, fun value _ => ?_⟩
    have reported : pointer ∈ memo.inlined := (reports.mem_iff pointer).mpr (Or.inl (by simp [remembered]))
    refine ⟨reports, List.Subset.refl _, fun other came _ => ?_, fun _ => Or.inl⟩
    rw [List.mem_singleton.mp came]
    exact reported
  | none =>
    rw [run_retrieve_none remembered]
    obtain ⟨nodup, progress⟩ := inside (memo.start pointer) (reports.start remembered notOn)
    generalize resolve.run (memo.start pointer) = result at nodup progress ⊢
    obtain ⟨failure | resolved, later⟩ := result
    · refine ⟨nodup, fun value same => ?_⟩
      cases same
    · have ended := progress resolved rfl
      refine ⟨nodup, fun value _ => ⟨ended.reports.finish resolved, ?_, fun other came _ => ?_, ?_⟩⟩
      · exact List.Subset.trans (List.subset_append_left _ _) ended.grows
      · rw [List.mem_singleton.mp came]
        exact ended.grows (List.mem_append_right _ List.mem_cons_self)
      · intro other reported
        rcases ended.within other reported with before | added
        · rcases List.mem_append.mp before with earlier | here
          · exact Or.inl earlier
          · rw [List.mem_singleton.mp here]
            exact Or.inr ⟨registered, inScope⟩
        · exact Or.inr added

theorem Registry.not_mem_of_inline?_none {pointer : Pointer} (absent : registry.inline? chain pointer = none) :
    pointer ∉ registry.pointers := by
  rw [← Registry.body?_eq_none_iff]
  by_contra known
  obtain ⟨body, found⟩ := Option.ne_none_iff_exists'.mp known
  rw [Registry.inline?_of_body found] at absent
  cases absent

/-- **A reference within the scope**, under any chain, when the scope is closed under what components refer to. -/
theorem inline?_visits (closed : ∀ pointer body, registry.body? pointer = some body → occurrences body ⊆ scope)
    (chain : List Pointer) {pointer : Pointer} (inScope : pointer ∈ scope) {run : Resolving Tree}
    (known : registry.inline? chain pointer = some run) : Visits registry scope chain [pointer] run := by
  induction chain using registry.chain_induction generalizing pointer run with
  | step chain ih =>
    cases found : registry.body? pointer with
    | none =>
      rw [Registry.inline?_of_none found] at known
      cases known
    | some body =>
      rw [Registry.inline?_of_body found, Option.some.injEq] at known
      subst known
      split
      · exact .throw _ _
      · rename_i notOn
        have registered := Registry.mem_pointers_of_body? found
        exact Visits.retrieve registered inScope notOn (expand_visits (fun _ => Registry.not_mem_of_inline?_none)
          (fun _ inside _ => ih pointer registered notOn inside) body (closed pointer body found))

end Visits

/-! ### Documents -/

variable {document : Tree} {registry : Registry}

/-- **What is reported of a document**: how many components there are, and then those that are resolved. -/
theorem resolveDocument_events (registered : registryOf document = .ok registry) :
    (resolveDocument document).outcome.2 = .registered registry.length ::
      (registry.step .empty (completed document)).2.inlined.map .inlining := by
  cases document with
  | map entries =>
    rw [registryOf] at registered
    unfold resolveDocument Run.outcome completed
    simp only [run_bind, Run.run_ofExcept, Run.report, Run.run_reportAll, registered]
    cases (registry.step .empty (.map (withComponents entries))).1 with
    | error failure => rfl
    | ok resolved =>
      simp only
      split <;> rfl
  | _ => cases registered

/-- Nothing is reported of a document without a registry. -/
theorem resolveDocument_events_of_error {failure : Failure} (failed : registryOf document = .error failure) :
    (resolveDocument document).outcome.2 = [] := by
  cases document with
  | map entries =>
    rw [registryOf] at failed
    unfold resolveDocument Run.outcome
    simp only [run_bind, Run.run_ofExcept, failed]
  | _ => rfl

/-- A run on a document comes by all its references, and by no others. -/
theorem visits_document (registered : registryOf document = .ok registry) :
    Visits registry (occurrences (completed document)) [] (occurrences (completed document))
      (registry.resolve (completed document)) := by
  refine expand_visits (fun _ => Registry.not_mem_of_inline?_none) (fun _ inside _ known => ?_) _
    (List.Subset.refl _)
  refine inline?_visits (fun other body found => ?_) [] inside known
  rw [completed_eq registered (Registry.mem_pointers_of_body? found)]
  exact occurrences_subset (maps_body_subset registered found)

theorem nodup_inlined (registered : registryOf document = .ok registry) :
    (registry.step .empty (completed document)).2.inlined.Nodup :=
  (visits_document registered .empty Memo.reports_empty).1

/-- When all references are replaced, the components that have been resolved are those that the document refers to. -/
theorem mem_inlined_iff {resolved : Tree} (registered : registryOf document = .ok registry)
    (succeeded : substituted document = .ok resolved) {pointer : Pointer} :
    pointer ∈ (registry.step .empty (completed document)).2.inlined ↔
      pointer ∈ registry.pointers ∧ pointer ∈ occurrences document := by
  have outcome : (registry.step .empty (completed document)).1 = .ok resolved := by
    rw [substituted, registered, ok_bind] at succeeded
    rw [(step_sound (Memo.sound_empty registry) _).1, succeeded]
  have progress := (visits_document registered .empty Memo.reports_empty).2 resolved outcome
  constructor
  · intro inlined
    rcases progress.within pointer inlined with before | ⟨known, found⟩
    · cases before
    · rw [completed_eq registered known] at found
      exact ⟨known, found⟩
  · rintro ⟨known, found⟩
    rw [← completed_eq registered known] at found
    exact progress.visited pointer found known

/-- **Every component is resolved at most once.** Whatever the outcome, no component is reported twice, and if all
references are replaced, those that are reported are the registered ones in the document. -/
theorem inlined_once (document : Tree) :
    (∀ pointer, (resolveDocument document).outcome.2.count (.inlining pointer) ≤ 1) ∧
      ∀ registry resolved, registryOf document = .ok registry → substituted document = .ok resolved →
        ∀ pointer, .inlining pointer ∈ (resolveDocument document).outcome.2 ↔
          pointer ∈ registry.pointers ∧ pointer ∈ occurrences document := by
  constructor
  · intro pointer
    cases registered : registryOf document with
    | error failure =>
      rw [resolveDocument_events_of_error registered]
      exact Nat.zero_le 1
    | ok registry =>
      have injective : Function.Injective Event.inlining := fun _ _ => Event.inlining.inj
      have other : Event.registered registry.length ≠ .inlining pointer := nofun
      rw [resolveDocument_events registered, List.count_cons_of_ne other,
        List.count_map_of_injective _ _ injective]
      exact List.nodup_iff_count_le_one.mp (nodup_inlined registered) pointer
  · intro registry resolved registered succeeded pointer
    rw [resolveDocument_events registered, ← mem_inlined_iff registered succeeded]
    simp

theorem inlined_once_of_branchDocument :
    registryOf branchDocument = .ok branchComponents ∧ substituted branchDocument = .ok branchResolved ∧
      ∀ pointer, .inlining pointer ∈ (resolveDocument branchDocument).outcome.2 ↔
        pointer ∈ branchComponents.pointers ∧ pointer ∈ occurrences branchDocument := by
  have succeeded : substituted branchDocument = .ok branchResolved :=
    (resolveDocument_ok_iff.mp resolve_branchDocument).1
  exact ⟨registryOf_branchDocument, succeeded,
    (inlined_once branchDocument).2 _ _ registryOf_branchDocument succeeded⟩

end RouteCompiler
