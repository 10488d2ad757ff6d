/-
**Trees with their references replaced, from the result.**

The traversal that replaces references is opened from its result. A value comes from values of all
members; a map has been kept, spliced with what it refers to, or replaced by it. A failure is that of one
of the references in the tree, or of a reference whose siblings cannot be spliced.

* `expandItems_ok_iff`, `expandEntries_ok_iff`: values of containers, member by member;
* `Rebuilt`, `expand_map_ok_iff`: the three ways in which a map has a value;
* `expand_error`: where a failure comes from;
* `ok_of_mem_occurrences`: when a tree has a value, so have all known references in it;
* `expand_ok_of_agrees`: a value depends on the references in the tree alone.
-/

import RouteCompiler.Proofs.Computation
import RouteCompiler.Proofs.Reference.Nodes
import RouteCompiler.Proofs.Tree.Matched
import RouteCompiler.Reference.Expansion

namespace RouteCompiler

/-- What the pointers of references stand for, or why they stand for nothing. Nothing is said of a
pointer that is not known. -/
abbrev Meaning := Pointer → Option (Except Failure Tree)

variable {meaning : Meaning}

/-! ### Values -/

/-- A tree without parts is left as it is, whatever references stand for. -/
theorem Tree.Atomic.expand_eq_pure {m : Type → Type} [Monad m] [MonadExceptOf Failure m]
    {inline? : Pointer → Option (m Tree)} {tree : Tree} (atomic : tree.Atomic) :
    expand inline? tree = pure tree := by
  cases atomic <;> rw [expand]

theorem Tree.Atomic.expand_eq {tree : Tree} (atomic : tree.Atomic) : expand meaning tree = .ok tree :=
  atomic.expand_eq_pure

theorem expandItems_ok_iff {items results : List Tree} :
    expandItems meaning items = .ok results ↔
      List.Forall₂ (fun item result => expand meaning item = .ok result) items results := by
  induction items generalizing results with
  | nil =>
    rw [expandItems, List.forall₂_nil_left_iff]
    exact ⟨fun same => (Except.ok.inj same).symm, fun same => by rw [same]; rfl⟩
  | cons item rest ih =>
    rw [expandItems, bind_ok_iff, List.forall₂_cons_left_iff]
    constructor
    · rintro ⟨first, atFirst, later⟩
      obtain ⟨others, atOthers, same⟩ := bind_ok_iff.mp later
      exact ⟨first, others, atFirst, ih.mp atOthers, (Except.ok.inj same).symm⟩
    · rintro ⟨first, others, atFirst, atOthers, rfl⟩
      exact ⟨first, atFirst, bind_ok_iff.mpr ⟨others, ih.mpr atOthers, rfl⟩⟩

theorem expandEntries_ok_iff {entries results : Entries} :
    expandEntries meaning entries = .ok results ↔
      Entries.Matched (fun value result => expand meaning value = .ok result) entries results := by
  induction entries generalizing results with
  | nil =>
    rw [expandEntries, Entries.Matched, List.forall₂_nil_left_iff]
    exact ⟨fun same => (Except.ok.inj same).symm, fun same => by rw [same]; rfl⟩
  | cons entry rest ih =>
    obtain ⟨key, value⟩ := entry
    rw [expandEntries, bind_ok_iff, Entries.Matched, List.forall₂_cons_left_iff]
    constructor
    · rintro ⟨first, atFirst, later⟩
      obtain ⟨others, atOthers, same⟩ := bind_ok_iff.mp later
      exact ⟨(key, first), others, ⟨rfl, atFirst⟩, ih.mp atOthers, (Except.ok.inj same).symm⟩
    · rintro ⟨⟨_, first⟩, others, ⟨rfl, atFirst⟩, atOthers, rfl⟩
      exact ⟨first, atFirst, bind_ok_iff.mpr ⟨others, ih.mpr atOthers, rfl⟩⟩

theorem expand_list_ok_iff {items : List Tree} {result : Tree} :
    expand meaning (.list items) = .ok result ↔
      ∃ results, expandItems meaning items = .ok results ∧ result = .list results := by
  rw [expand, bind_ok_iff]
  constructor
  · rintro ⟨results, atItems, same⟩
    exact ⟨results, atItems, (Except.ok.inj same).symm⟩
  · rintro ⟨results, atItems, rfl⟩
    exact ⟨results, atItems, rfl⟩

/-! ### Maps -/

theorem known?_eq_none_iff {entries : Entries} :
    known? meaning entries = none ↔
      ∀ pointer, reference? entries = some pointer → meaning pointer = none := by
  cases isReference : reference? entries with
  | none => simp [known?, isReference]
  | some pointer => simp [known?, isReference]

theorem known?_eq_some_iff {entries : Entries} {pointer : Pointer} {outcome : Except Failure Tree} :
    known? meaning entries = some (pointer, outcome) ↔
      reference? entries = some pointer ∧ meaning pointer = some outcome := by
  cases isReference : reference? entries with
  | none => simp [known?, isReference]
  | some other =>
    simp only [known?, isReference, Option.bind_some, Option.map_eq_some_iff, Prod.mk.injEq,
      Option.some.injEq]
    constructor
    · rintro ⟨content, found, rfl, rfl⟩
      exact ⟨rfl, found⟩
    · rintro ⟨rfl, found⟩
      exact ⟨outcome, found, rfl, rfl⟩

/-- The ways in which a map has a value. -/
inductive Rebuilt (meaning : Meaning) (entries : Entries) : Tree → Prop
  /-- The map is no known reference, and its values are rebuilt. -/
  | kept {results : Entries}
      (unknown : ∀ pointer, reference? entries = some pointer → meaning pointer = none)
      (values : expandEntries meaning entries = .ok results) :
      Rebuilt meaning entries (.map results)
  /-- The map refers to a map, which is spliced with its own entries. -/
  | spliced {pointer : Pointer} {content results : Entries}
      (isReference : reference? entries = some pointer)
      (found : meaning pointer = some (.ok (.map content)))
      (values : expandEntries meaning entries = .ok results) :
      Rebuilt meaning entries (.map (splice content results))
  /-- The map refers to another value, which replaces it. -/
  | replaced {pointer : Pointer} {content : Tree}
      (isReference : reference? entries = some pointer)
      (found : meaning pointer = some (.ok content))
      (noMap : ∀ inner, content ≠ .map inner) (alone : ¬ 1 < entries.length) :
      Rebuilt meaning entries content

/-- What becomes of a map that refers to a value. -/
def refer (meaning : Meaning) (entries : Entries) (pointer : Pointer) : Tree → Except Failure Tree
  | .map content => do
    let results ← expandEntries meaning entries
    return .map (splice content results)
  | content => if 1 < entries.length then .error (siblingFailure pointer entries) else .ok content

theorem expand_unknown {entries : Entries} (unknown : known? meaning entries = none) :
    expand meaning (.map entries) =
      (expandEntries meaning entries >>= fun results => .ok (.map results)) := by
  rw [expand, unknown]
  rfl

theorem expand_reference {entries : Entries} {pointer : Pointer} {outcome : Except Failure Tree}
    (known : known? meaning entries = some (pointer, outcome)) :
    expand meaning (.map entries) = outcome >>= refer meaning entries pointer := by
  rw [expand, known]
  cases outcome with
  | error failure => rfl
  | ok content => cases content <;> rfl

theorem refer_value {entries : Entries} {pointer : Pointer} {content : Tree}
    (noMap : ∀ inner, content ≠ .map inner) : refer meaning entries pointer content =
      if 1 < entries.length then .error (siblingFailure pointer entries) else .ok content := by
  cases content with
  | map inner => exact absurd rfl (noMap inner)
  | _ => rfl

theorem expand_map_ok_iff {entries : Entries} {result : Tree} :
    expand meaning (.map entries) = .ok result ↔ Rebuilt meaning entries result := by
  constructor
  · intro succeeded
    cases known : known? meaning entries with
    | none =>
      rw [expand_unknown known] at succeeded
      obtain ⟨results, values, same⟩ := bind_ok_iff.mp succeeded
      cases same
      exact .kept (known?_eq_none_iff.mp known) values
    | some reference =>
      rw [expand_reference known] at succeeded
      obtain ⟨content, outcome, referred⟩ := bind_ok_iff.mp succeeded
      obtain ⟨isReference, found⟩ := known?_eq_some_iff.mp known
      rw [outcome] at found
      by_cases isMap : ∃ inner, content = .map inner
      · obtain ⟨inner, rfl⟩ := isMap
        obtain ⟨results, values, same⟩ := bind_ok_iff.mp referred
        cases same
        exact .spliced isReference found values
      · have noMap : ∀ inner, content ≠ .map inner := fun inner same => isMap ⟨inner, same⟩
        rw [refer_value noMap] at referred
        split at referred
        · cases referred
        · rename_i alone
          cases referred
          exact .replaced isReference found noMap alone
  · intro rebuilt
    cases rebuilt with
    | kept unknown values =>
      rw [expand_unknown (known?_eq_none_iff.mpr unknown), values]
      rfl
    | spliced isReference found values =>
      rw [expand_reference (known?_eq_some_iff.mpr ⟨isReference, found⟩), ok_bind, refer, values]
      rfl
    | replaced isReference found noMap alone =>
      rw [expand_reference (known?_eq_some_iff.mpr ⟨isReference, found⟩), ok_bind, refer_value noMap,
        if_neg alone]

/-! ### Failures -/

theorem expandItems_error {items : List Tree} {failure : Failure}
    (failed : expandItems meaning items = .error failure) :
    ∃ item ∈ items, expand meaning item = .error failure := by
  induction items with
  | nil => cases failed
  | cons item rest ih =>
    rw [expandItems] at failed
    rcases bind_error_iff.mp failed with here | ⟨first, _, later⟩
    · exact ⟨item, List.mem_cons_self, here⟩
    · rcases bind_error_iff.mp later with atRest | ⟨others, _, same⟩
      · obtain ⟨other, member, atOther⟩ := ih atRest
        exact ⟨other, List.mem_cons_of_mem _ member, atOther⟩
      · cases same

theorem expandEntries_error {entries : Entries} {failure : Failure}
    (failed : expandEntries meaning entries = .error failure) :
    ∃ entry ∈ entries, expand meaning entry.2 = .error failure := by
  induction entries with
  | nil => cases failed
  | cons entry rest ih =>
    rw [expandEntries] at failed
    rcases bind_error_iff.mp failed with here | ⟨first, _, later⟩
    · exact ⟨entry, List.mem_cons_self, here⟩
    · rcases bind_error_iff.mp later with atRest | ⟨others, _, same⟩
      · obtain ⟨other, member, atOther⟩ := ih atRest
        exact ⟨other, List.mem_cons_of_mem _ member, atOther⟩
      · cases same

/-- A map fails with its reference, with one of its values, or because it has siblings that cannot be
spliced. -/
theorem expand_map_error {entries : Entries} {failure : Failure}
    (failed : expand meaning (.map entries) = .error failure) :
    (∃ pointer, reference? entries = some pointer ∧ meaning pointer = some (.error failure)) ∨
      (∃ entry ∈ entries, expand meaning entry.2 = .error failure) ∨
      ∃ pointer, failure = siblingFailure pointer entries := by
  cases known : known? meaning entries with
  | none =>
    rw [expand_unknown known] at failed
    rcases bind_error_iff.mp failed with inside | ⟨_, _, same⟩
    · exact Or.inr (Or.inl (expandEntries_error inside))
    · cases same
  | some reference =>
    obtain ⟨isReference, found⟩ := known?_eq_some_iff.mp known
    rw [expand_reference known] at failed
    rcases bind_error_iff.mp failed with here | ⟨content, _, referred⟩
    · rw [here] at found
      exact Or.inl ⟨_, isReference, found⟩
    · by_cases isMap : ∃ inner, content = .map inner
      · obtain ⟨inner, rfl⟩ := isMap
        rcases bind_error_iff.mp referred with inside | ⟨_, _, same⟩
        · exact Or.inr (Or.inl (expandEntries_error inside))
        · cases same
      · rw [refer_value fun inner same => isMap ⟨inner, same⟩] at referred
        split at referred
        · cases referred
          exact Or.inr (Or.inr ⟨_, rfl⟩)
        · cases referred

/-- **A failure comes from a reference in the tree**, or from the siblings of one that cannot be spliced. -/
theorem expand_error {tree : Tree} {failure : Failure} (failed : expand meaning tree = .error failure) :
    (∃ pointer ∈ occurrences tree, meaning pointer = some (.error failure)) ∨
      ∃ pointer, ∃ entries ∈ tree.maps, failure = siblingFailure pointer entries := by
  induction tree using Tree.nested_induction with
  | atomic tree atomic =>
    rw [atomic.expand_eq] at failed
    cases failed
  | list items ih =>
    rw [expand] at failed
    rcases bind_error_iff.mp failed with inside | ⟨_, _, same⟩
    · obtain ⟨item, member, atItem⟩ := expandItems_error inside
      rcases ih item member atItem with ⟨pointer, found, failing⟩ | sibling
      · exact Or.inl ⟨pointer, mem_occurrences_list.mpr ⟨item, member, found⟩, failing⟩
      · obtain ⟨beside, node, inItem, same⟩ := sibling
        exact Or.inr ⟨beside, node, Tree.maps_subset_of_mem_items member inItem, same⟩
    · cases same
  | map entries ih =>
    rcases expand_map_error failed with ⟨pointer, isReference, failing⟩ | ⟨entry, member, atEntry⟩ | sibling
    · exact Or.inl ⟨pointer, mem_occurrences_map.mpr (Or.inl isReference), failing⟩
    · rcases ih entry member atEntry with ⟨pointer, found, failing⟩ | sibling
      · exact Or.inl ⟨pointer, mem_occurrences_map.mpr (Or.inr ⟨entry, member, found⟩), failing⟩
      · obtain ⟨beside, node, inEntry, same⟩ := sibling
        exact Or.inr ⟨beside, node, Tree.maps_subset_of_mem member inEntry, same⟩
    · obtain ⟨pointer, same⟩ := sibling
      exact Or.inr ⟨pointer, entries, Tree.self_mem_maps entries, same⟩

/-! ### What a value depends on -/

/-- **When a tree has a value, so has every known reference in it**, those beside another reference
included. -/
theorem ok_of_mem_occurrences {tree result : Tree} (succeeded : expand meaning tree = .ok result)
    {pointer : Pointer} (found : pointer ∈ occurrences tree) :
    meaning pointer = none ∨ ∃ content, meaning pointer = some (.ok content) := by
  induction tree using Tree.nested_induction generalizing result with
  | atomic tree atomic =>
    rw [atomic.occurrences_eq] at found
    cases found
  | list items ih =>
    obtain ⟨results, atItems, rfl⟩ := expand_list_ok_iff.mp succeeded
    obtain ⟨item, member, inItem⟩ := mem_occurrences_list.mp found
    obtain ⟨_, _, atItem⟩ := exists_right_of_mem (expandItems_ok_iff.mp atItems) member
    exact ih item member atItem inItem
  | map entries ih =>
    have inValues {results : Entries} (values : expandEntries meaning entries = .ok results)
        (inside : ∃ entry ∈ entries, pointer ∈ occurrences entry.2) :
        meaning pointer = none ∨ ∃ content, meaning pointer = some (.ok content) := by
      obtain ⟨entry, member, inEntry⟩ := inside
      obtain ⟨_, _, _, atEntry⟩ := exists_right_of_mem (expandEntries_ok_iff.mp values) member
      exact ih entry member atEntry inEntry
    rcases mem_occurrences_map.mp found with here | inside
    · cases expand_map_ok_iff.mp succeeded with
      | kept unknown values => exact Or.inl (unknown pointer here)
      | spliced isReference known values =>
        cases here.symm.trans isReference
        exact Or.inr ⟨_, known⟩
      | replaced isReference known noMap alone =>
        cases here.symm.trans isReference
        exact Or.inr ⟨_, known⟩
    · cases expand_map_ok_iff.mp succeeded with
      | kept unknown values => exact inValues values inside
      | spliced isReference known values => exact inValues values inside
      | replaced isReference known noMap alone =>
        -- the only entry is the reference itself, and there is nothing inside a text
        obtain ⟨entry, member, inEntry⟩ := inside
        rw [eq_singleton_of_reference isReference alone, List.mem_singleton] at member
        rw [member, (Tree.Atomic.scalar _).occurrences_eq] at inEntry
        cases inEntry

/-- Every known reference that has a value has the same value in the other meaning, and none that is
unknown becomes known. -/
def Meaning.Agrees (meaning other : Meaning) (pointer : Pointer) : Prop :=
  (meaning pointer = none → other pointer = none) ∧
    ∀ content, meaning pointer = some (.ok content) → other pointer = some (.ok content)

/-- **A value depends on the references in the tree alone.** -/
theorem expand_ok_of_agrees {other : Meaning} {tree result : Tree}
    (agrees : ∀ pointer ∈ occurrences tree, meaning.Agrees other pointer)
    (succeeded : expand meaning tree = .ok result) : expand other tree = .ok result := by
  induction tree using Tree.nested_induction generalizing result with
  | atomic tree atomic =>
    rw [atomic.expand_eq] at succeeded ⊢
    exact succeeded
  | list items ih =>
    obtain ⟨results, atItems, rfl⟩ := expand_list_ok_iff.mp succeeded
    refine expand_list_ok_iff.mpr ⟨results, expandItems_ok_iff.mpr ?_, rfl⟩
    refine forall₂_imp_of_mem (fun item member partner atItem => ?_) (expandItems_ok_iff.mp atItems)
    exact ih item member (fun pointer found =>
      agrees pointer (mem_occurrences_list.mpr ⟨item, member, found⟩)) atItem
  | map entries ih =>
    have inValues {results : Entries} (values : expandEntries meaning entries = .ok results) :
        expandEntries other entries = .ok results := by
      refine expandEntries_ok_iff.mpr (forall₂_imp_of_mem (fun entry member partner atEntry => ?_)
        (expandEntries_ok_iff.mp values))
      refine ⟨atEntry.1, ih entry member (fun pointer found => ?_) atEntry.2⟩
      exact agrees pointer (mem_occurrences_map.mpr (Or.inr ⟨entry, member, found⟩))
    have here {pointer : Pointer} (isReference : reference? entries = some pointer) :
        meaning.Agrees other pointer :=
      agrees pointer (mem_occurrences_map.mpr (Or.inl isReference))
    apply expand_map_ok_iff.mpr
    cases expand_map_ok_iff.mp succeeded with
    | kept unknown values =>
      exact .kept (fun pointer isReference => (here isReference).1 (unknown pointer isReference))
        (inValues values)
    | spliced isReference found values =>
      exact .spliced isReference ((here isReference).2 _ found) (inValues values)
    | replaced isReference found noMap alone =>
      exact .replaced isReference ((here isReference).2 _ found) noMap alone

end RouteCompiler
