/-
**Containers that are matched member by member.**

A function that rebuilds a container leaves its shape: as many items, the same keys in the same order.
What it does to the members is a relation between them.

* `exists_right_of_mem`, `exists_left_of_mem`, `getElem?_right`: the partner of an item;
* `forall₂_append_left_iff`: the partners of two lists one after the other;
* `Entries.Matched`: two maps with the same keys and related values;
* `Matched.get?_right`, `Matched.get?_left`: the partner of the value of a key;
* `Matched.mem_right`, `Matched.mem_left`: the partner of an entry;
* `Matched.append_left_iff`: two maps one after the other;
* `Matched.insert`, `Matched.insert_left_iff`: setting a key in both maps, or in one of them.
-/

import Mathlib.Data.List.Forall2
import RouteCompiler.Tree.Entries

namespace RouteCompiler

/-! ### Lists -/

section Lists

variable {α β : Type} {related : α → β → Prop} {first : List α} {second : List β}

theorem exists_right_of_mem (matched : List.Forall₂ related first second) {item : α}
    (member : item ∈ first) : ∃ partner ∈ second, related item partner := by
  induction matched with
  | nil => cases member
  | cons here _ ih =>
    rcases List.mem_cons.mp member with rfl | later
    · exact ⟨_, List.mem_cons_self, here⟩
    · obtain ⟨partner, found, holds⟩ := ih later
      exact ⟨partner, List.mem_cons_of_mem _ found, holds⟩

theorem exists_left_of_mem (matched : List.Forall₂ related first second) {partner : β}
    (member : partner ∈ second) : ∃ item ∈ first, related item partner := by
  obtain ⟨item, found, holds⟩ := exists_right_of_mem matched.flip member
  exact ⟨item, found, holds⟩

theorem getElem?_right (matched : List.Forall₂ related first second) {place : Nat} {item : α}
    (found : first[place]? = some item) : ∃ partner, second[place]? = some partner ∧ related item partner := by
  obtain ⟨within, rfl⟩ := List.getElem?_eq_some_iff.mp found
  have alsoWithin : place < second.length := matched.length_eq ▸ within
  exact ⟨second[place], List.getElem?_eq_getElem alsoWithin, matched.get within alsoWithin⟩

/-- A relation may be weakened for the items that are there. -/
theorem forall₂_imp_of_mem {weaker : α → β → Prop}
    (implies : ∀ item ∈ first, ∀ partner, related item partner → weaker item partner)
    (matched : List.Forall₂ related first second) : List.Forall₂ weaker first second := by
  induction matched with
  | nil => exact .nil
  | @cons item partner _ _ here _ ih =>
    refine .cons (implies item List.mem_cons_self partner here) (ih fun later member => ?_)
    exact implies later (List.mem_cons_of_mem _ member)

/-- The partners of one list after another are those of the first and then those of the second. -/
theorem forall₂_append_left_iff {others : List α} :
    List.Forall₂ related (first ++ others) second ↔
      ∃ before after, List.Forall₂ related first before ∧ List.Forall₂ related others after ∧
        second = before ++ after := by
  constructor
  · intro matched
    induction first generalizing second with
    | nil => exact ⟨[], second, .nil, matched, rfl⟩
    | cons item rest ih =>
      obtain ⟨partner, partners, here, later, rfl⟩ := List.forall₂_cons_left_iff.mp matched
      obtain ⟨before, after, atRest, atOthers, rfl⟩ := ih later
      exact ⟨partner :: before, after, .cons here atRest, atOthers, rfl⟩
  · rintro ⟨before, after, atFirst, atOthers, rfl⟩
    exact List.rel_append atFirst atOthers

end Lists

/-! ### Maps -/

namespace Entries

/-- Two maps with the same keys in the same order and related values. -/
def Matched (related : Tree → Tree → Prop) (first second : Entries) : Prop :=
  List.Forall₂ (fun entry partner => entry.1 = partner.1 ∧ related entry.2 partner.2) first second

namespace Matched

variable {related : Tree → Tree → Prop} {first second : Entries}

theorem keys_eq (matched : Matched related first second) :
    OrderedMap.keys second = OrderedMap.keys first := by
  induction matched with
  | nil => rfl
  | cons here _ ih => rw [OrderedMap.keys_cons, OrderedMap.keys_cons, here.1, ih]

theorem mem_right (matched : Matched related first second) {key : Scalar} {value : Tree}
    (member : (key, value) ∈ first) : ∃ partner, (key, partner) ∈ second ∧ related value partner := by
  obtain ⟨⟨_, partner⟩, found, rfl, holds⟩ := exists_right_of_mem matched member
  exact ⟨partner, found, holds⟩

theorem mem_left (matched : Matched related first second) {key : Scalar} {partner : Tree}
    (member : (key, partner) ∈ second) : ∃ value, (key, value) ∈ first ∧ related value partner := by
  obtain ⟨⟨_, value⟩, found, rfl, holds⟩ := exists_left_of_mem matched member
  exact ⟨value, found, holds⟩

/-- A key has no value in both maps, or related ones. -/
theorem get?_cases (matched : Matched related first second) (key : Scalar) :
    (OrderedMap.get? first key = none ∧ OrderedMap.get? second key = none) ∨
      ∃ value partner, OrderedMap.get? first key = some value ∧
        OrderedMap.get? second key = some partner ∧ related value partner := by
  induction matched with
  | nil => exact Or.inl ⟨rfl, rfl⟩
  | @cons entry partner _ _ here _ ih =>
    obtain ⟨k, v⟩ := entry
    obtain ⟨l, w⟩ := partner
    obtain ⟨sameKey, holds⟩ := here
    subst sameKey
    by_cases same : k = key
    · exact Or.inr ⟨v, w, by rw [OrderedMap.get?_cons, if_pos same],
        by rw [OrderedMap.get?_cons, if_pos same], holds⟩
    · rw [OrderedMap.get?_cons, if_neg same, OrderedMap.get?_cons, if_neg same]
      exact ih

theorem get?_right (matched : Matched related first second) {key : Scalar} {value : Tree}
    (found : OrderedMap.get? first key = some value) :
    ∃ partner, OrderedMap.get? second key = some partner ∧ related value partner := by
  rcases matched.get?_cases key with ⟨absent, _⟩ | ⟨other, partner, atFirst, atSecond, holds⟩
  · rw [absent] at found
    cases found
  · rw [atFirst] at found
    cases found
    exact ⟨partner, atSecond, holds⟩

theorem get?_left (matched : Matched related first second) {key : Scalar} {partner : Tree}
    (found : OrderedMap.get? second key = some partner) :
    ∃ value, OrderedMap.get? first key = some value ∧ related value partner := by
  rcases matched.get?_cases key with ⟨_, absent⟩ | ⟨value, other, atFirst, atSecond, holds⟩
  · rw [absent] at found
    cases found
  · rw [atSecond] at found
    cases found
    exact ⟨value, atFirst, holds⟩

/-- Related values may be set for a key in both maps. -/
theorem insert (matched : Matched related first second) (key : Scalar) {value partner : Tree}
    (holds : related value partner) :
    Matched related (OrderedMap.insert first key value) (OrderedMap.insert second key partner) := by
  induction matched with
  | nil => exact .cons ⟨rfl, holds⟩ .nil
  | @cons entry other rest others here later ih =>
    obtain ⟨k, v⟩ := entry
    obtain ⟨l, w⟩ := other
    obtain ⟨sameKey, atKey⟩ := here
    subst sameKey
    rw [OrderedMap.insert, OrderedMap.insert]
    by_cases same : k = key
    · rw [if_pos same, if_pos same]
      exact .cons ⟨rfl, holds⟩ later
    · rw [if_neg same, if_neg same]
      exact .cons ⟨rfl, atKey⟩ ih

/-- Of two maps one after the other, each has partners of its own. -/
theorem append_left_iff {others : Entries} :
    Matched related (first ++ others) second ↔
      ∃ before after, Matched related first before ∧ Matched related others after ∧ second = before ++ after :=
  forall₂_append_left_iff

/-- The value of a key has a partner of its own: the rest is matched as it is beside any other value of the key
that has a partner. -/
theorem insert_left_iff {key : Scalar} {value other otherPartner : Tree} (holds : related other otherPartner) :
    Matched related (OrderedMap.insert first key value) second ↔
      ∃ rest partner, Matched related (OrderedMap.insert first key other) rest ∧ related value partner ∧
        second = OrderedMap.insert rest key partner := by
  constructor
  · intro matched
    obtain ⟨partner, becomes, atValue⟩ := matched.get?_right (OrderedMap.get?_insert_self first key value)
    have elsewhere := matched.insert key holds
    rw [OrderedMap.insert_insert] at elsewhere
    refine ⟨_, partner, elsewhere, atValue, ?_⟩
    rw [OrderedMap.insert_insert, OrderedMap.insert_eq_self becomes]
  · rintro ⟨rest, partner, matched, atValue, rfl⟩
    have inserted := Matched.insert matched key atValue
    rwa [OrderedMap.insert_insert] at inserted

end Matched

end Entries

end RouteCompiler
