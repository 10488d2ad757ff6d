/-
**The references of a tree.**

A map with the key `$ref` and a text for its value is a reference. An object's own reference comes
before those inside its values, and everything else is in the order of the document.

* `reference?`: the reference that a map is;
* `occurrences`: every reference of a tree, repeated ones too;
* `references`: each reference once, at its first occurrence;
* `nodup_references`, `mem_references`: no reference is listed twice and none is left out.
-/

import RouteCompiler.Failure
import RouteCompiler.Tree.Entries

namespace RouteCompiler

/-- The key of a reference. -/
def refKey : Scalar :=
  "$ref"

/-- The text of a scalar that is one. -/
def Tree.text? : Tree → Option String
  | .str text => some text
  | _ => none

/-- The reference that a map is, if it is one. Another value under the key is data. -/
def reference? (entries : Entries) : Option Pointer :=
  (OrderedMap.get? entries refKey).bind Tree.text?

mutual

/-- The references of a tree in the order of the document. -/
def occurrences : Tree → List Pointer
  | .scalar _ => []
  | .pair .. => []
  | .set _ => []
  | .list items => occurrencesItems items
  | .map entries => (reference? entries).toList ++ occurrencesEntries entries

/-- The references of the items of a list. -/
def occurrencesItems : List Tree → List Pointer
  | [] => []
  | item :: rest => occurrences item ++ occurrencesItems rest

/-- The references inside the values of a map. -/
def occurrencesEntries : List (Scalar × Tree) → List Pointer
  | [] => []
  | (_, value) :: rest => occurrences value ++ occurrencesEntries rest

end

/-- The members of a list that are not in `seen`, each once at its first place. -/
def firstOccurrences (seen : List Pointer) : List Pointer → List Pointer
  | [] => []
  | pointer :: rest =>
    if pointer ∈ seen then firstOccurrences seen rest
    else pointer :: firstOccurrences (pointer :: seen) rest

/-- The references of a tree, each once at its first occurrence. -/
def references (tree : Tree) : List Pointer :=
  firstOccurrences [] (occurrences tree)

theorem mem_firstOccurrences (seen pointers : List Pointer) (pointer : Pointer) :
    pointer ∈ firstOccurrences seen pointers ↔ pointer ∈ pointers ∧ pointer ∉ seen := by
  induction pointers generalizing seen with
  | nil => simp [firstOccurrences]
  | cons first rest ih =>
    by_cases old : first ∈ seen
    · rw [firstOccurrences, if_pos old, ih]
      constructor
      · rintro ⟨inRest, fresh⟩
        exact ⟨List.mem_cons_of_mem _ inRest, fresh⟩
      · rintro ⟨member, fresh⟩
        rcases List.mem_cons.mp member with rfl | inRest
        · exact absurd old fresh
        · exact ⟨inRest, fresh⟩
    · rw [firstOccurrences, if_neg old, List.mem_cons, ih]
      constructor
      · rintro (rfl | ⟨inRest, fresh⟩)
        · exact ⟨List.mem_cons_self, old⟩
        · exact ⟨List.mem_cons_of_mem _ inRest, fun seen => fresh (List.mem_cons_of_mem _ seen)⟩
      · rintro ⟨member, fresh⟩
        by_cases equal : pointer = first
        · exact Or.inl equal
        · rcases List.mem_cons.mp member with same | inRest
          · exact Or.inl same
          · exact Or.inr ⟨inRest, by simp [equal, fresh]⟩

theorem nodup_firstOccurrences (seen pointers : List Pointer) :
    (firstOccurrences seen pointers).Nodup := by
  induction pointers generalizing seen with
  | nil => simp [firstOccurrences]
  | cons first rest ih =>
    by_cases old : first ∈ seen
    · rw [firstOccurrences, if_pos old]
      exact ih seen
    · rw [firstOccurrences, if_neg old]
      refine List.nodup_cons.mpr ⟨?_, ih _⟩
      simp [mem_firstOccurrences]

theorem mem_references (tree : Tree) (pointer : Pointer) :
    pointer ∈ references tree ↔ pointer ∈ occurrences tree := by
  simp [references, mem_firstOccurrences]

theorem nodup_references (tree : Tree) : (references tree).Nodup :=
  nodup_firstOccurrences _ _

end RouteCompiler
