/-
**References that remain in a tree.**

Replacing the known references of a tree leaves the others. As long as a component takes the place of no value
beside a reference to it, a splice hides none of them: what it drops is part of the component. There is one
more way to become a reference. A map whose `$ref` is itself a reference is none, but it is one when that
reference stands for a text.

* `Leaves`, `Remains`: what one map, and a tree, leave as references;
* `reference?_kept_iff`: a map whose values are rebuilt is a reference to what it leaves;
* `remains_of_mem_occurrences`: a reference of the result remains from the tree, or stands in what a
  reference stands for;
* `mem_occurrences_of_remains`: what remains of a tree is a reference of the result.
-/

import RouteCompiler.Proofs.Reference.Expansion
import RouteCompiler.Proofs.Reference.Splicing

namespace RouteCompiler

open Entries (Apart)

/-- No map of a tree has a key twice, in whatever spelling. -/
def Tree.KeysApart (tree : Tree) : Prop :=
  ∀ node ∈ tree.maps, Apart node

theorem Tree.KeysApart.subset {inner outer : Tree} (apart : outer.KeysApart)
    (inside : inner.maps ⊆ outer.maps) : inner.KeysApart :=
  fun node member => apart node (inside member)

theorem Tree.keysApart_map_iff {entries : Entries} :
    (Tree.map entries).KeysApart ↔ Apart entries ∧ ∀ entry ∈ entries, entry.2.KeysApart := by
  constructor
  · exact fun apart => ⟨apart entries (Tree.self_mem_maps entries),
      fun entry member => apart.subset (Tree.maps_subset_of_mem member)⟩
  · rintro ⟨here, inside⟩ node member
    rcases Tree.mem_maps_map.mp member with rfl | ⟨entry, inEntries, inEntry⟩
    · exact here
    · exact inside entry inEntries node inEntry

instance (tree : Tree) : Decidable tree.KeysApart :=
  inferInstanceAs (Decidable (∀ node ∈ tree.maps, (OrderedMap.keys node).Pairwise _))

namespace Meaning

/-- The map that a pointer stands for. -/
def map? (meaning : Meaning) (pointer : Pointer) : Option Entries :=
  match meaning pointer with
  | some (.ok (.map content)) => some content
  | _ => none

theorem map?_eq_some {meaning : Meaning} {pointer : Pointer} {content : Entries}
    (known : meaning pointer = some (.ok (.map content))) : meaning.map? pointer = some content := by
  rw [map?, known]

theorem of_map?_eq_some {meaning : Meaning} {pointer : Pointer} {content : Entries}
    (found : meaning.map? pointer = some content) : meaning pointer = some (.ok (.map content)) := by
  unfold map? at found
  split at found
  · rename_i known
    cases found
    exact known
  · cases found

/-- No map that a pointer stands for has a key twice. -/
def KeysApart (meaning : Meaning) : Prop :=
  ∀ pointer, ∀ content ∈ meaning.map? pointer, Apart content

/-- What a reference stands for defines no key that stands before `$ref`, where the component would take the
place of the value. -/
def KeepsSiblings (meaning : Meaning) (node : Entries) : Prop :=
  ∀ pointer ∈ reference? node, ∀ content ∈ meaning.map? pointer, ∀ key ∈ OrderedMap.keys node,
    [key, refKey].Sublist (OrderedMap.keys node) → Entries.has content key = false

instance (meaning : Meaning) (node : Entries) : Decidable (meaning.KeepsSiblings node) :=
  inferInstanceAs (Decidable (∀ pointer ∈ reference? node, ∀ content ∈ meaning.map? pointer,
    ∀ key ∈ OrderedMap.keys node, [key, refKey].Sublist _ → Entries.has content key = false))

end Meaning

variable {meaning : Meaning}

/-! ### What remains -/

/-- A map leaves a text as a reference when it is an unknown reference itself, or when its `$ref` is a
reference that stands for the text. -/
inductive Leaves (meaning : Meaning) (node : Entries) (text : String) : Prop
  /-- Nothing is known of the reference. -/
  | unknown (isReference : reference? node = some text) (absent : meaning text = none)
  /-- The text is put in the place of the reference under `$ref`. -/
  | formed {pointer : Pointer}
      (value : OrderedMap.get? node refKey = some (.map [(refKey, .str pointer)]))
      (found : meaning pointer = some (.ok (.str text)))

/-- One of the maps of a tree leaves a text as a reference. -/
def Remains (meaning : Meaning) (tree : Tree) (text : String) : Prop :=
  ∃ node ∈ tree.maps, Leaves meaning node text

theorem Remains.subset {inner outer : Tree} {text : String} (remains : Remains meaning inner text)
    (inside : inner.maps ⊆ outer.maps) : Remains meaning outer text := by
  obtain ⟨node, member, leaves⟩ := remains
  exact ⟨node, inside member, leaves⟩

theorem not_remains_of_atomic {tree : Tree} (atomic : tree.Atomic) {text : String} :
    ¬ Remains meaning tree text := by
  rintro ⟨node, member, _⟩
  rw [atomic.maps_eq] at member
  cases member

theorem remains_list_iff {items : List Tree} {text : String} :
    Remains meaning (.list items) text ↔ ∃ item ∈ items, Remains meaning item text := by
  constructor
  · rintro ⟨node, inside, leaves⟩
    obtain ⟨item, member, inItem⟩ := Tree.mem_maps_list.mp inside
    exact ⟨item, member, node, inItem, leaves⟩
  · rintro ⟨item, member, remains⟩
    exact remains.subset (Tree.maps_subset_of_mem_items member)

theorem remains_map_iff {entries : Entries} {text : String} :
    Remains meaning (.map entries) text ↔
      Leaves meaning entries text ∨ ∃ entry ∈ entries, Remains meaning entry.2 text := by
  constructor
  · rintro ⟨node, inside, leaves⟩
    rcases Tree.mem_maps_map.mp inside with rfl | ⟨entry, member, inEntry⟩
    · exact Or.inl leaves
    · exact Or.inr ⟨entry, member, node, inEntry, leaves⟩
  · rintro (leaves | ⟨entry, member, remains⟩)
    · exact ⟨entries, Tree.self_mem_maps entries, leaves⟩
    · exact remains.subset (Tree.maps_subset_of_mem member)

/-- What a map leaves depends on its `$ref` alone. -/
theorem Leaves.congr {node other : Entries} {text : String}
    (same : OrderedMap.get? node refKey = OrderedMap.get? other refKey) (leaves : Leaves meaning node text) :
    Leaves meaning other text := by
  cases leaves with
  | unknown isReference absent =>
    rw [reference?, same] at isReference
    exact .unknown isReference absent
  | formed value found => exact .formed (same.symm.trans value) found

theorem Leaves.of_agrees {other : Meaning} {node : Entries} {text : String}
    (agrees : ∀ pointer, meaning.Agrees other pointer) (leaves : Leaves meaning node text) :
    Leaves other node text := by
  cases leaves with
  | unknown isReference absent => exact .unknown isReference ((agrees text).1 absent)
  | formed value found => exact .formed value ((agrees _).2 _ found)

/-! ### One map -/

/-- A text is what becomes of itself and of a reference that stands for it. -/
theorem expand_eq_str_iff {tree : Tree} {text : String} :
    expand meaning tree = .ok (.str text) ↔
      tree = .str text ∨
        ∃ pointer, tree = .map [(refKey, .str pointer)] ∧ meaning pointer = some (.ok (.str text)) := by
  constructor
  · intro succeeded
    induction tree using Tree.nested_induction with
    | atomic tree atomic => exact Or.inl (Except.ok.inj (atomic.expand_eq.symm.trans succeeded))
    | list items =>
      obtain ⟨_, _, same⟩ := expand_list_ok_iff.mp succeeded
      cases same
    | map entries =>
      cases expand_map_ok_iff.mp succeeded with
      | replaced isReference found noMap alone =>
        exact Or.inr ⟨_, by rw [eq_singleton_of_reference isReference alone], found⟩
  · rintro (rfl | ⟨pointer, rfl, found⟩)
    · exact (Tree.Atomic.scalar _).expand_eq
    · have noMap (inner : Entries) : Tree.str text ≠ .map inner := by
        intro same
        cases same
      exact expand_map_ok_iff.mpr (.replaced rfl found noMap (by simp))

/-- A map that leaves something is no known reference. -/
theorem Leaves.not_known {entries : Entries} {text : String} (leaves : Leaves meaning entries text)
    {pointer : Pointer} (isReference : reference? entries = some pointer) : meaning pointer = none := by
  cases leaves with
  | unknown isUnknown absent =>
    cases isReference.symm.trans isUnknown
    exact absent
  | formed value found =>
    cases (reference?_eq_some_iff.mp isReference).symm.trans value

/-- **A map whose values are rebuilt is a reference to what it leaves.** -/
theorem reference?_kept_iff {entries results : Entries} {text : String}
    (unknown : ∀ pointer, reference? entries = some pointer → meaning pointer = none)
    (values : expandEntries meaning entries = .ok results) :
    reference? results = some text ↔ Leaves meaning entries text := by
  have matched := expandEntries_ok_iff.mp values
  have fromValue {value : Tree} (found : OrderedMap.get? entries refKey = some value)
      (becomes : expand meaning value = .ok (.str text)) : reference? results = some text := by
    obtain ⟨partner, atResults, atValue⟩ := matched.get?_right found
    cases atValue.symm.trans becomes
    exact reference?_eq_some_iff.mpr atResults
  constructor
  · intro isReference
    obtain ⟨value, found, becomes⟩ := matched.get?_left (reference?_eq_some_iff.mp isReference)
    rcases expand_eq_str_iff.mp becomes with rfl | ⟨pointer, rfl, known⟩
    · have itself := reference?_eq_some_iff.mpr found
      exact .unknown itself (unknown text itself)
    · exact .formed found known
  · intro leaves
    cases leaves with
    | unknown isReference absent =>
      exact fromValue (reference?_eq_some_iff.mp isReference) (expand_eq_str_iff.mpr (Or.inl rfl))
    | formed value found => exact fromValue value (expand_eq_str_iff.mpr (Or.inr ⟨_, rfl, found⟩))

/-- Where `$ref` stands in the entries of a reference after its values have been rebuilt. -/
theorem exists_cut_results {entries results : Entries} (apart : Apart entries) {pointer : Pointer}
    (isReference : reference? entries = some pointer)
    (values : expandEntries meaning entries = .ok results) :
    Apart results ∧ ∃ before after value, CutAtRef results before after value := by
  have matched := expandEntries_ok_iff.mp values
  have apartResults : Apart results := by
    rw [Apart, matched.keys_eq]
    exact apart
  obtain ⟨value, atResults, _⟩ := matched.get?_right (reference?_eq_some_iff.mp isReference)
  obtain ⟨before, after, cut⟩ := exists_cutAtRef apartResults atResults
  exact ⟨apartResults, before, after, value, cut⟩

/-- A value beside a known reference stays when the component does not take its place. -/
theorem mem_splice_of_sibling (contents : meaning.KeysApart) {entries content results : Entries}
    (apart : Apart entries) (keeps : meaning.KeepsSiblings entries) {pointer : Pointer}
    (isReference : reference? entries = some pointer) (known : meaning pointer = some (.ok (.map content)))
    (values : expandEntries meaning entries = .ok results) {key : Scalar} {sibling : Tree}
    (member : (key, sibling) ∈ results) (notRef : key ≠ refKey) :
    ∃ spelled, (spelled, sibling) ∈ splice content results := by
  obtain ⟨apartResults, before, after, _, cut⟩ := exists_cut_results apart isReference values
  have found := Meaning.map?_eq_some known
  have apartContent := contents pointer content found
  have survives : Entries.find? (splice content results) key = some sibling := by
    rcases cut.mem_sides member notRef with inBefore | inAfter
    · refine find?_splice_before cut apartResults apartContent inBefore ?_
      have stands := (expandEntries_ok_iff.mp values).keys_eq ▸ cut.sublist_of_mem_before inBefore
      exact keeps pointer isReference content found key (stands.subset List.mem_cons_self) stands
    · exact find?_splice_after cut apartResults apartContent inAfter
  exact ⟨_, Entries.mem_of_find?_eq_some survives⟩

/-- A map that a tree becomes has no key twice. -/
theorem apart_of_expand {tree : Tree} {content : Entries} (apart : tree.KeysApart)
    (succeeded : expand meaning tree = .ok (.map content)) : Apart content := by
  induction tree using Tree.nested_induction with
  | atomic tree atomic =>
    cases atomic.expand_eq.symm.trans succeeded
    cases atomic
  | list items =>
    obtain ⟨_, _, same⟩ := expand_list_ok_iff.mp succeeded
    cases same
  | map entries =>
    have apartEntries := apart entries (Tree.self_mem_maps entries)
    cases expand_map_ok_iff.mp succeeded with
    | kept unknown values =>
      rw [Apart, (expandEntries_ok_iff.mp values).keys_eq]
      exact apartEntries
    | spliced isReference found values =>
      obtain ⟨_, _, _, _, cut⟩ := exists_cut_results apartEntries isReference values
      exact apart_splice cut _
    | replaced isReference found noMap alone => exact absurd rfl (noMap content)

/-- A tree of which no map has a key twice becomes one of which none has, if the known references stand for
such trees. -/
theorem keysApart_of_expand
    (contents : ∀ pointer content, meaning pointer = some (.ok content) → content.KeysApart)
    {tree result : Tree} (apart : tree.KeysApart) (succeeded : expand meaning tree = .ok result) :
    result.KeysApart := by
  induction tree using Tree.nested_induction generalizing result with
  | atomic tree atomic =>
    cases atomic.expand_eq.symm.trans succeeded
    exact apart
  | list items ih =>
    obtain ⟨results, atItems, rfl⟩ := expand_list_ok_iff.mp succeeded
    intro node inside
    obtain ⟨result, inResults, inResult⟩ := Tree.mem_maps_list.mp inside
    obtain ⟨item, inItems, atItem⟩ := exists_left_of_mem (expandItems_ok_iff.mp atItems) inResults
    exact ih item inItems (apart.subset (Tree.maps_subset_of_mem_items inItems)) atItem node inResult
  | map entries ih =>
    obtain ⟨apartEntries, apartValues⟩ := Tree.keysApart_map_iff.mp apart
    have rebuilt {results : Entries} (values : expandEntries meaning entries = .ok results) :
        ∀ entry ∈ results, entry.2.KeysApart := by
      rintro ⟨key, partner⟩ member
      obtain ⟨value, inEntries, atValue⟩ := (expandEntries_ok_iff.mp values).mem_left member
      exact ih (key, value) inEntries (apartValues _ inEntries) atValue
    cases expand_map_ok_iff.mp succeeded with
    | kept unknown values =>
      exact Tree.keysApart_map_iff.mpr ⟨apart_of_expand apart succeeded, rebuilt values⟩
    | spliced isReference found values =>
      obtain ⟨apartContent, apartInside⟩ := Tree.keysApart_map_iff.mp (contents _ _ found)
      obtain ⟨apartResults, _, _, _, cut⟩ := exists_cut_results apartEntries isReference values
      refine Tree.keysApart_map_iff.mpr ⟨apart_of_expand apart succeeded, fun entry member => ?_⟩
      rcases mem_splice cut apartResults apartContent member with ⟨key, inContent⟩ | ⟨key, inResults⟩
      · exact apartInside (key, entry.2) inContent
      · exact rebuilt values (key, entry.2) inResults
    | replaced isReference found noMap alone => exact contents _ _ found

/-! ### Trees -/

/-- **A reference of the result** remains from the tree, or stands in what a reference stands for. -/
theorem remains_of_mem_occurrences (contents : meaning.KeysApart) {tree result : Tree}
    (apart : tree.KeysApart) (succeeded : expand meaning tree = .ok result) {text : String}
    (found : text ∈ occurrences result) :
    Remains meaning tree text ∨
      ∃ pointer content, meaning pointer = some (.ok content) ∧ text ∈ occurrences content := by
  induction tree using Tree.nested_induction generalizing result with
  | atomic tree atomic =>
    cases atomic.expand_eq.symm.trans succeeded
    rw [atomic.occurrences_eq] at found
    cases found
  | list items ih =>
    obtain ⟨results, atItems, rfl⟩ := expand_list_ok_iff.mp succeeded
    obtain ⟨partner, inResults, inPartner⟩ := mem_occurrences_list.mp found
    obtain ⟨item, member, atItem⟩ := exists_left_of_mem (expandItems_ok_iff.mp atItems) inResults
    rcases ih item member (apart.subset (Tree.maps_subset_of_mem_items member)) atItem inPartner with
      remains | inContent
    · exact Or.inl (remains_list_iff.mpr ⟨item, member, remains⟩)
    · exact Or.inr inContent
  | map entries ih =>
    have inValue {results : Entries} (values : expandEntries meaning entries = .ok results)
        {key : Scalar} {partner : Tree} (inResults : (key, partner) ∈ results)
        (inPartner : text ∈ occurrences partner) : Remains meaning (.map entries) text ∨
          ∃ pointer content, meaning pointer = some (.ok content) ∧ text ∈ occurrences content := by
      obtain ⟨value, member, atValue⟩ := (expandEntries_ok_iff.mp values).mem_left inResults
      rcases ih (key, value) member (apart.subset (Tree.maps_subset_of_mem member)) atValue inPartner with
        remains | inContent
      · exact Or.inl (remains_map_iff.mpr (Or.inr ⟨_, member, remains⟩))
      · exact Or.inr inContent
    cases expand_map_ok_iff.mp succeeded with
    | kept unknown values =>
      rcases mem_occurrences_map.mp found with isReference | ⟨⟨key, partner⟩, inResults, inPartner⟩
      · have leaves := (reference?_kept_iff unknown values).mp isReference
        exact Or.inl (remains_map_iff.mpr (Or.inl leaves))
      · exact inValue values inResults inPartner
    | @spliced pointer content results isReference known values =>
      obtain ⟨apartResults, _, _, _, cut⟩ :=
        exists_cut_results (apart entries (Tree.self_mem_maps entries)) isReference values
      have apartContent := contents pointer content (Meaning.map?_eq_some known)
      rcases mem_occurrences_map.mp found with atRef | ⟨⟨key, partner⟩, inSplice, inPartner⟩
      · rw [reference?, get?_splice_ref cut apartResults apartContent] at atRef
        exact Or.inr ⟨_, _, known, mem_occurrences_map.mpr (Or.inl atRef)⟩
      · rcases mem_splice cut apartResults apartContent inSplice with
          ⟨spelled, inContent⟩ | ⟨spelled, inResults⟩
        · exact Or.inr ⟨_, _, known, mem_occurrences_map.mpr (Or.inr ⟨_, inContent, inPartner⟩)⟩
        · exact inValue values inResults inPartner
    | replaced isReference known noMap alone => exact Or.inr ⟨_, _, known, found⟩

/-- **What remains of a tree is a reference of the result.** -/
theorem mem_occurrences_of_remains (contents : meaning.KeysApart) {tree result : Tree}
    (apart : tree.KeysApart) (keeps : ∀ node ∈ tree.maps, meaning.KeepsSiblings node)
    (succeeded : expand meaning tree = .ok result) {text : String} (remains : Remains meaning tree text) :
    text ∈ occurrences result := by
  induction tree using Tree.nested_induction generalizing result with
  | atomic tree atomic => exact absurd remains (not_remains_of_atomic atomic)
  | list items ih =>
    obtain ⟨results, atItems, rfl⟩ := expand_list_ok_iff.mp succeeded
    obtain ⟨item, member, inItem⟩ := remains_list_iff.mp remains
    obtain ⟨partner, inResults, atItem⟩ := exists_right_of_mem (expandItems_ok_iff.mp atItems) member
    have inside := Tree.maps_subset_of_mem_items member
    refine mem_occurrences_list.mpr ⟨partner, inResults, ?_⟩
    exact ih item member (apart.subset inside) (fun node inItem => keeps node (inside inItem)) atItem inItem
  | map entries ih =>
    have atEntries := apart entries (Tree.self_mem_maps entries)
    have inValue {key : Scalar} {value partner : Tree} (member : (key, value) ∈ entries)
        (inEntry : Remains meaning value text) (atValue : expand meaning value = .ok partner) :
        text ∈ occurrences partner := by
      have inside := Tree.maps_subset_of_mem member
      exact ih (key, value) member (apart.subset inside) (fun node inItem => keeps node (inside inItem))
        atValue inEntry
    rcases remains_map_iff.mp remains with leaves | ⟨⟨key, value⟩, member, inEntry⟩
    · cases expand_map_ok_iff.mp succeeded with
      | kept unknown values =>
        exact mem_occurrences_map.mpr (Or.inl ((reference?_kept_iff unknown values).mpr leaves))
      | spliced isReference known values =>
        cases known.symm.trans (leaves.not_known isReference)
      | replaced isReference known noMap alone =>
        cases known.symm.trans (leaves.not_known isReference)
    · cases expand_map_ok_iff.mp succeeded with
      | kept unknown values =>
        obtain ⟨partner, inResults, atValue⟩ := (expandEntries_ok_iff.mp values).mem_right member
        exact mem_occurrences_map.mpr (Or.inr ⟨_, inResults, inValue member inEntry atValue⟩)
      | spliced isReference known values =>
        have notRef : key ≠ refKey := by
          rintro rfl
          have itself := OrderedMap.get?_eq_some_of_mem atEntries.distinct member
          cases itself.symm.trans (reference?_eq_some_iff.mp isReference)
          exact not_remains_of_atomic (.scalar _) inEntry
        obtain ⟨partner, inResults, atValue⟩ := (expandEntries_ok_iff.mp values).mem_right member
        obtain ⟨spelled, inSplice⟩ := mem_splice_of_sibling contents atEntries
          (keeps entries (Tree.self_mem_maps entries)) isReference known values inResults notRef
        exact mem_occurrences_map.mpr (Or.inr ⟨_, inSplice, inValue member inEntry atValue⟩)
      | replaced isReference known noMap alone =>
        -- there is nothing inside the text of a reference that stands alone
        rw [eq_singleton_of_reference isReference alone, List.mem_singleton] at member
        cases member
        exact absurd inEntry (not_remains_of_atomic (.scalar _))

end RouteCompiler
