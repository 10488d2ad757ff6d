/-
**Sorting keeps the items.**

A list is sorted by setting a first run aside, turned round if need be, and inserting what is left. Neither loses
an item or adds one, in whatever way items compare.

* `placeOf_le`: an item is inserted inside the list;
* `firstRun_perm`, `insertSorted_perm`, `sortBy_perm`: the steps of sorting, and sorting;
* `sortKeys?_of_texts`: texts can be sorted, and stay the same.
-/

import Mathlib.Data.List.Perm.Basic
import RouteCompiler.Tree.KeyOrder

namespace RouteCompiler

variable {α : Type} {before : α → α → Bool}

/-! ### First runs -/

theorem nonDescendingRun_perm (last : α) (done items : List α) :
    ((nonDescendingRun before last done items).1 ++ (nonDescendingRun before last done items).2).Perm
      (last :: done ++ items) := by
  induction items generalizing last done with
  | nil =>
    rw [nonDescendingRun, List.append_nil, List.append_nil]
    exact List.reverse_perm _
  | cons item rest ih =>
    rw [nonDescendingRun]
    split
    · exact (List.reverse_perm _).append_right _
    · exact (ih item (last :: done)).trans List.perm_middle.symm

theorem descendingRun_perm (last : α) (done items : List α) :
    ((descendingRun before last done items).1 ++ (descendingRun before last done items).2).Perm
      (last :: done ++ items) := by
  induction items generalizing last done with
  | nil => exact List.Perm.refl _
  | cons item rest ih =>
    rw [descendingRun]
    split
    · exact (ih item (last :: done)).trans List.perm_middle.symm
    · exact List.Perm.refl _

theorem firstRun_perm (items : List α) : ((firstRun before items).1 ++ (firstRun before items).2).Perm items := by
  match items with
  | [] => exact .nil
  | [_] => exact List.Perm.refl _
  | first :: second :: rest =>
    rw [firstRun]
    split
    · exact (descendingRun_perm second [first] rest).trans (.swap first second rest)
    · exact (nonDescendingRun_perm second [first] rest).trans (.swap first second rest)

/-! ### Insertion -/

theorem placeOf_le (item : α) (sorted : List α) {low high : Nat} (ordered : low ≤ high) :
    placeOf before item sorted low high ≤ high := by
  fun_induction placeOf before item sorted low high with
  | case1 low high less middle other found isBefore ih => exact Nat.le_trans (ih (by omega)) (by omega)
  | case2 low high less middle other found notBefore ih => exact ih (by omega)
  | case3 low high less middle beyond => exact ordered
  | case4 low high done => exact ordered

theorem insertSorted_perm (sorted : List α) (item : α) : (insertSorted before sorted item).Perm (item :: sorted) :=
  List.perm_insertIdx item sorted (placeOf_le item sorted (Nat.zero_le _))

/-! ### Sorting -/

/-- **Sorting keeps the items**, even where they have no order. -/
theorem sortBy_perm (items : List α) : (sortBy before items).Perm items := by
  have inserted (sorted rest : List α) : (rest.foldl (insertSorted before) sorted).Perm (sorted ++ rest) := by
    induction rest generalizing sorted with
    | nil => rw [List.foldl_nil, List.append_nil]
    | cons item rest ih =>
      rw [List.foldl_cons]
      exact (ih _).trans (((insertSorted_perm sorted item).append_right rest).trans List.perm_middle.symm)
  exact (inserted _ _).trans (firstRun_perm items)

/-- Texts have an order, and are the same in it. -/
theorem sortKeys?_of_texts {keys : List Scalar} (texts : ∀ key ∈ keys, ∃ text, key = .str text) :
    ∃ sorted, sortKeys? keys = some sorted ∧ sorted.Perm keys := by
  obtain ⟨names, rfl⟩ : ∃ names : List String, keys = names.map .str := by
    induction keys with
    | nil => exact ⟨[], rfl⟩
    | cons key rest ih =>
      obtain ⟨⟨text, rfl⟩, ofRest⟩ := List.forall_mem_cons.mp texts
      obtain ⟨names, rfl⟩ := ih ofRest
      exact ⟨text :: names, rfl⟩
  obtain ⟨sorted, found⟩ := Option.isSome_iff_exists.mp (sortKeys?_str names)
  refine ⟨sorted, found, ?_⟩
  unfold sortKeys? at found
  split at found
  · cases found
    exact sortBy_perm _
  · cases found

end RouteCompiler
