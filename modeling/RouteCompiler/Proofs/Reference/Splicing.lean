/-
**What a spliced reference holds.**

Splicing sets the keys of the component where `$ref` stood. So a key that stands after `$ref` has the
reference's own value, a key of the component the component's, and a key that stands before `$ref` keeps its
value when the component does not define it.

* `splice_eq`: a splice is what stands before `$ref`, the component, and what stands after it, in turn;
* `find?_splice`: the value of a key;
* `find?_splice_after`, `find?_splice_before`: the values of the reference that are kept;
* `get?_splice_ref`: only the component can leave a `$ref`;
* `mem_splice`: a value is one of the component or of the reference.
-/

import RouteCompiler.Proofs.Reference.Nodes
import RouteCompiler.Proofs.Tree.SameKey
import RouteCompiler.Reference.Expansion

namespace RouteCompiler

open Entries (Apart find?)

/-! ### Where `$ref` stands -/

/-- The entries of a reference are cut at `$ref`. -/
structure CutAtRef (entries before after : Entries) (value : Tree) : Prop where
  /-- The entries are those before `$ref`, its own, and those after it. -/
  whole : entries = before ++ (refKey, value) :: after
  /-- No entry before it is another `$ref`. -/
  first : refKey ∉ OrderedMap.keys before
  /-- No entry after it is another `$ref`. -/
  last : refKey ∉ OrderedMap.keys after

theorem exists_cutAtRef {entries : Entries} (apart : Apart entries) {value : Tree}
    (found : OrderedMap.get? entries refKey = some value) :
    ∃ before after, CutAtRef entries before after value := by
  obtain ⟨before, after, whole⟩ := List.append_of_mem (OrderedMap.mem_of_get?_eq_some found)
  have distinct := apart.distinct
  rw [whole, OrderedMap.Distinct, OrderedMap.keys_append, OrderedMap.keys_cons] at distinct
  obtain ⟨_, ofRest, disjoint⟩ := List.nodup_append.mp distinct
  refine ⟨before, after, whole, fun member => ?_, (List.nodup_cons.mp ofRest).1⟩
  exact disjoint refKey member refKey List.mem_cons_self rfl

namespace CutAtRef

variable {entries before after : Entries} {value : Tree}

theorem apart_before (cut : CutAtRef entries before after value) (apart : Apart entries) : Apart before := by
  rw [cut.whole, Apart, OrderedMap.keys_append] at apart
  exact (List.pairwise_append.mp apart).1

theorem apart_after (cut : CutAtRef entries before after value) (apart : Apart entries) : Apart after := by
  rw [cut.whole, Apart, OrderedMap.keys_append, OrderedMap.keys_cons] at apart
  exact (List.pairwise_cons.mp (List.pairwise_append.mp apart).2.1).2

/-- An entry that is not `$ref` stands on one of the two sides. -/
theorem mem_sides (cut : CutAtRef entries before after value) {key : Scalar} {content : Tree}
    (member : (key, content) ∈ entries) (other : key ≠ refKey) :
    (key, content) ∈ before ∨ (key, content) ∈ after := by
  rw [cut.whole] at member
  rcases List.mem_append.mp member with inBefore | later
  · exact Or.inl inBefore
  · rcases List.mem_cons.mp later with isRef | inAfter
    · cases isRef
      exact absurd rfl other
    · exact Or.inr inAfter

/-- The entries on both sides are entries of the reference. -/
theorem mem_of_side (cut : CutAtRef entries before after value) {entry : Scalar × Tree}
    (side : entry ∈ before ∨ entry ∈ after) : entry ∈ entries := by
  rw [cut.whole]
  rcases side with inBefore | inAfter
  · exact List.mem_append_left _ inBefore
  · exact List.mem_append_right _ (List.mem_cons_of_mem _ inAfter)

/-- The key of an entry before `$ref` stands before it. -/
theorem sublist_of_mem_before (cut : CutAtRef entries before after value) {key : Scalar} {content : Tree}
    (member : (key, content) ∈ before) : [key, refKey].Sublist (OrderedMap.keys entries) := by
  rw [cut.whole, OrderedMap.keys_append, OrderedMap.keys_cons]
  have inKeys : key ∈ OrderedMap.keys before := List.mem_map.mpr ⟨_, member, rfl⟩
  exact (List.singleton_sublist.mpr inKeys).append (List.singleton_sublist.mpr List.mem_cons_self)

end CutAtRef

/-! ### The splice -/

theorem splice_of_no_ref (content start entries : Entries) (noRef : refKey ∉ OrderedMap.keys entries) :
    entries.foldl (fun spliced entry =>
      if entry.1 = refKey then Entries.merge spliced content
      else Entries.insert spliced entry.1 entry.2) start = Entries.merge start entries := by
  induction entries generalizing start with
  | nil => rfl
  | cons entry rest ih =>
    rw [OrderedMap.keys_cons, List.mem_cons, not_or] at noRef
    rw [List.foldl_cons, if_neg (Ne.symm noRef.1), ih _ noRef.2]
    rfl

/-- **A splice** is what stands before `$ref`, then the component, then what stands after `$ref`. -/
theorem splice_eq {entries before after : Entries} {value : Tree}
    (cut : CutAtRef entries before after value) (content : Entries) :
    splice content entries = Entries.merge (Entries.merge (Entries.merge [] before) content) after := by
  rw [splice, cut.whole, List.foldl_append, List.foldl_cons, splice_of_no_ref _ _ _ cut.first, if_pos rfl,
    splice_of_no_ref _ _ _ cut.last]

/-- No key stands twice after splicing. -/
theorem apart_splice {entries before after : Entries} {value : Tree}
    (cut : CutAtRef entries before after value) (content : Entries) : Apart (splice content entries) := by
  have empty : Apart ([] : Entries) := List.Pairwise.nil
  rw [splice_eq cut]
  exact ((empty.merge before).merge content).merge after

section Values

variable {content entries before after : Entries} {value : Tree}

/-- **The value of a key** is the last of the values before `$ref`, in the component and after `$ref`. -/
theorem find?_splice (cut : CutAtRef entries before after value) (apart : Apart entries)
    (apartContent : Apart content) (key : Scalar) :
    find? (splice content entries) key = (find? after key <|> find? content key <|> find? before key) := by
  rw [splice_eq cut, Entries.find?_merge _ (cut.apart_after apart), Entries.find?_merge _ apartContent,
    Entries.find?_merge _ (cut.apart_before apart), Entries.find?_nil]
  cases find? before key <;> rfl

/-- A value after `$ref` is kept. -/
theorem find?_splice_after (cut : CutAtRef entries before after value) (apart : Apart entries)
    (apartContent : Apart content) {key : Scalar} {sibling : Tree} (member : (key, sibling) ∈ after) :
    find? (splice content entries) key = some sibling := by
  rw [find?_splice cut apart apartContent, Entries.find?_eq_some_of_mem (cut.apart_after apart) member]
  rfl

/-- A value before `$ref` is kept when the component does not define its key. -/
theorem find?_splice_before (cut : CutAtRef entries before after value) (apart : Apart entries)
    (apartContent : Apart content) {key : Scalar} {sibling : Tree} (member : (key, sibling) ∈ before)
    (undefined : Entries.has content key = false) : find? (splice content entries) key = some sibling := by
  have notLater : find? after key = none := by
    refine Entries.find?_eq_none_iff.mpr fun other inAfter => ?_
    rw [cut.whole, Apart, OrderedMap.keys_append, OrderedMap.keys_cons] at apart
    exact (List.pairwise_append.mp apart).2.2 key (List.mem_map.mpr ⟨_, member, rfl⟩) other
      (List.mem_cons_of_mem _ inAfter)
  rw [find?_splice cut apart apartContent, notLater, Entries.has_eq_false_iff.mp undefined,
    Entries.find?_eq_some_of_mem (cut.apart_before apart) member]
  rfl

/-- **Only the component can leave a `$ref`.** -/
theorem get?_splice_ref (cut : CutAtRef entries before after value) (apart : Apart entries)
    (apartContent : Apart content) :
    OrderedMap.get? (splice content entries) refKey = OrderedMap.get? content refKey := by
  have absent {side : Entries} (noRef : refKey ∉ OrderedMap.keys side) : find? side refKey = none := by
    rw [refKey, Entries.find?_str]
    exact (OrderedMap.get?_eq_none_iff side _).mpr noRef
  have spliced := find?_splice cut apart apartContent refKey
  rw [absent cut.first, absent cut.last, refKey, Entries.find?_str, Entries.find?_str] at spliced
  rw [refKey, spliced]
  cases OrderedMap.get? content (.str "$ref") <;> rfl

/-- **A value of a splice** is one of the component or one of the reference. -/
theorem mem_splice (cut : CutAtRef entries before after value) (apart : Apart entries)
    (apartContent : Apart content) {key : Scalar} {result : Tree}
    (member : (key, result) ∈ splice content entries) :
    (∃ spelled, (spelled, result) ∈ content) ∨ ∃ spelled, (spelled, result) ∈ entries := by
  have found := Entries.find?_eq_some_of_mem (apart_splice cut content) member
  rw [find?_splice cut apart apartContent] at found
  cases atAfter : find? after key with
  | some sibling =>
    rw [atAfter] at found
    cases found
    exact Or.inr ⟨_, cut.mem_of_side (Or.inr (Entries.mem_of_find?_eq_some atAfter))⟩
  | none =>
    rw [atAfter] at found
    cases atContent : find? content key with
    | some defined =>
      rw [atContent] at found
      cases found
      exact Or.inl ⟨_, Entries.mem_of_find?_eq_some atContent⟩
    | none =>
      rw [atContent] at found
      exact Or.inr ⟨_, cut.mem_of_side (Or.inl (Entries.mem_of_find?_eq_some found))⟩

end Values

end RouteCompiler
