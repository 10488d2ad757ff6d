/-
**A splice as an ordered override.**

A reference with siblings whose component is an object becomes one object. Its keys are those of the reference with
the keys of the component in the place of `$ref`, each at its first occurrence. The later value wins: the component
takes the place of what stands before `$ref`, and what stands after it takes the place of the component. A component
that is no object replaces a reference without siblings, and no other.

* `keys_splice`: the keys of a splice, in order;
* `Overrides`, `overrides_splice`: what a splice of rebuilt entries is, key by key;
* `Registry.run_expand`: the outcome of a run is that of the same traversal without a memory;
* `splice_overrides`: what a known reference becomes in a run, from every memory and under every chain.
-/

import RouteCompiler.Proofs.Reference.Memory
import RouteCompiler.Proofs.Reference.Orphans

namespace RouteCompiler

open Entries (Apart find?)

/-! ### Keys -/

/-- The keys of a reference with those of its component in the place of `$ref`. -/
def keysInPlace (content keys : List Scalar) : List Scalar :=
  keys.flatMap fun key => if key = refKey then content else [key]

/-- The keys that stand after `$ref`. -/
def keysAfterRef (keys : List Scalar) : List Scalar :=
  (keys.dropWhile fun key => decide (key ≠ refKey)).tail

theorem keysInPlace_of_no_ref {content keys : List Scalar} (noRef : refKey ∉ keys) :
    keysInPlace content keys = keys := by
  induction keys with
  | nil => rfl
  | cons key rest ih =>
    rw [List.mem_cons, not_or] at noRef
    rw [keysInPlace, List.flatMap_cons, if_neg (Ne.symm noRef.1), ← keysInPlace, ih noRef.2]
    rfl

namespace CutAtRef

variable {entries before after : Entries} {value : Tree}

theorem keysInPlace_eq (cut : CutAtRef entries before after value) (content : List Scalar) :
    keysInPlace content (OrderedMap.keys entries) =
      OrderedMap.keys before ++ content ++ OrderedMap.keys after := by
  have atBefore : keysInPlace content (OrderedMap.keys before) = OrderedMap.keys before :=
    keysInPlace_of_no_ref cut.first
  have atAfter : keysInPlace content (OrderedMap.keys after) = OrderedMap.keys after :=
    keysInPlace_of_no_ref cut.last
  rw [keysInPlace] at atBefore atAfter
  rw [keysInPlace, cut.whole, OrderedMap.keys_append, OrderedMap.keys_cons, List.flatMap_append,
    List.flatMap_cons, if_pos rfl, atBefore, atAfter, List.append_assoc]

theorem keysAfterRef_eq (cut : CutAtRef entries before after value) :
    keysAfterRef (OrderedMap.keys entries) = OrderedMap.keys after := by
  have passed : ∀ key ∈ OrderedMap.keys before, decide (key ≠ refKey) = true := by
    intro key member
    refine decide_eq_true fun isRef => cut.first ?_
    rw [← isRef]
    exact member
  rw [keysAfterRef, cut.whole, OrderedMap.keys_append, OrderedMap.keys_cons, List.dropWhile_append_of_pos passed,
    List.dropWhile_cons_of_neg (by simp), List.tail_cons]

/-- No key stands on both sides of `$ref`. -/
theorem not_mem_after (cut : CutAtRef entries before after value) (apart : Apart entries) {key : Scalar}
    {sibling : Tree} (member : (key, sibling) ∈ before) : key ∉ OrderedMap.keys after := by
  intro again
  rw [cut.whole, Apart, OrderedMap.keys_append, OrderedMap.keys_cons] at apart
  have inKeys : key ∈ OrderedMap.keys before := List.mem_map.mpr ⟨_, member, rfl⟩
  have differs := (List.pairwise_append.mp apart).2.2 key inKeys key (List.mem_cons_of_mem _ again)
  rw [Scalar.isSameKey_refl] at differs
  cases differs

end CutAtRef

/-- **The keys of a splice** are those of the reference with those of the component in the place of `$ref`, each at
its first occurrence. -/
theorem keys_splice {entries before after : Entries} {value : Tree} (cut : CutAtRef entries before after value)
    (content : Entries) : OrderedMap.keys (splice content entries) =
      (keysInPlace (OrderedMap.keys content) (OrderedMap.keys entries)).eraseDupsBy Scalar.isSameKey := by
  have empty : OrderedMap.keys ([] : Entries) = [].eraseDupsBy Scalar.isSameKey := rfl
  have ofBefore := Entries.keys_merge empty before
  have ofContent := Entries.keys_merge ofBefore content
  have ofAfter := Entries.keys_merge ofContent after
  rw [splice_eq cut, ofAfter, cut.keysInPlace_eq, List.nil_append]

/-! ### Values -/

/-- A map overrides the entries of a reference with those of its component. -/
structure Overrides (meaning : Meaning) (entries content spliced : Entries) : Prop where
  /-- No key stands twice. -/
  apart : Apart spliced
  /-- The keys are first occurrences, with those of the component in the place of `$ref`. -/
  keys : OrderedMap.keys spliced =
    (keysInPlace (OrderedMap.keys content) (OrderedMap.keys entries)).eraseDupsBy Scalar.isSameKey
  /-- A key of the component has its value there, unless it stands after `$ref`. -/
  defined : ∀ key value, find? content key = some value →
    (∀ other ∈ keysAfterRef (OrderedMap.keys entries), key.isSameKey other = false) → find? spliced key = some value
  /-- Any other key of the reference has its own value, rebuilt. -/
  sibling : ∀ entry ∈ entries, entry.1 ≠ refKey →
    find? content entry.1 = none ∨ entry.1 ∈ keysAfterRef (OrderedMap.keys entries) →
      ∃ result, expand meaning entry.2 = .ok result ∧ find? spliced entry.1 = some result
  /-- Only the component can leave a `$ref`. -/
  ref : refKey ∈ OrderedMap.keys spliced → refKey ∈ OrderedMap.keys content

variable {meaning : Meaning} {entries content results : Entries} {pointer : Pointer}

/-- **A splice of rebuilt entries is an override.** -/
theorem overrides_splice (apart : Apart entries) (apartContent : Apart content)
    (isReference : reference? entries = some pointer) (values : expandEntries meaning entries = .ok results) :
    Overrides meaning entries content (splice content results) := by
  have matched := expandEntries_ok_iff.mp values
  obtain ⟨apartResults, before, after, _, cut⟩ := exists_cut_results apart isReference values
  have after_eq : keysAfterRef (OrderedMap.keys entries) = OrderedMap.keys after := by
    rw [← matched.keys_eq]
    exact cut.keysAfterRef_eq
  refine ⟨apart_splice cut content, ?_, ?_, ?_, ?_⟩
  · rw [← matched.keys_eq]
    exact keys_splice cut content
  · intro key value inContent notAfter
    rw [after_eq] at notAfter
    rw [find?_splice cut apartResults apartContent, Entries.find?_eq_none_iff.mpr notAfter, inContent]
    rfl
  · rintro ⟨key, own⟩ member notRef stays
    obtain ⟨result, inResults, becomes⟩ := matched.mem_right member
    refine ⟨result, becomes, ?_⟩
    rcases cut.mem_sides inResults notRef with inBefore | inAfter
    · refine find?_splice_before cut apartResults apartContent inBefore (Entries.has_eq_false_iff.mpr ?_)
      rcases stays with undefined | later
      · exact undefined
      · rw [after_eq] at later
        exact absurd later (cut.not_mem_after apartResults inBefore)
    · exact find?_splice_after cut apartResults apartContent inAfter
  · intro left
    have same := get?_splice_ref cut apartResults apartContent
    by_contra absent
    rw [(OrderedMap.get?_eq_none_iff content refKey).mpr absent] at same
    exact (OrderedMap.get?_eq_none_iff _ refKey).mp same left

/-! ### References in a run -/

variable {registry : Registry} {memo : Memo} {chain : List Pointer}

/-- The outcome of a run does not depend on the memory. -/
theorem Registry.run_expand (sound : memo.Sound registry) (avoids : memo.Avoids chain) (tree : Tree) :
    ((expand (registry.inline? chain) tree).run memo).1 = expand (registry.direct? chain) tree :=
  (expand_follows (inline?_follows registry chain) tree memo sound avoids).outcome_eq

/-- **What a known reference becomes.** An object overrides it, and any other component replaces it if it has no
siblings. -/
theorem splice_overrides {component : Tree} (bodies : registry.KeysApart) (sound : memo.Sound registry)
    (avoids : memo.Avoids chain) (apart : Apart entries) (isReference : reference? entries = some pointer)
    (resolved : registry.direct? chain pointer = some (.ok component)) :
    (∀ content, component = .map content → ∀ result,
      ((expand (registry.inline? chain) (.map entries)).run memo).1 = .ok result →
        ∃ spliced, result = .map spliced ∧ Overrides (registry.direct? chain) entries content spliced) ∧
    ((∀ content, component ≠ .map content) →
      (OrderedMap.keys entries = [refKey] →
        ((expand (registry.inline? chain) (.map entries)).run memo).1 = .ok component) ∧
      (OrderedMap.keys entries ≠ [refKey] →
        ∃ failure, ((expand (registry.inline? chain) (.map entries)).run memo).1 = .error failure)) := by
  rw [Registry.run_expand sound avoids,
    expand_reference (known?_eq_some_iff.mpr ⟨isReference, resolved⟩), ok_bind]
  constructor
  · rintro content rfl result succeeded
    have apartContent : Apart content := bodies.direct resolved content (Tree.self_mem_maps content)
    obtain ⟨results, values, same⟩ := bind_ok_iff.mp succeeded
    cases same
    exact ⟨_, rfl, overrides_splice apart apartContent isReference values⟩
  · intro noMap
    rw [refer_value noMap]
    constructor
    · intro alone
      have single : (OrderedMap.keys entries).length = 1 := by rw [alone, List.length_singleton]
      rw [OrderedMap.keys, List.length_map] at single
      rw [if_neg (by omega)]
    · intro siblings
      have several : 1 < entries.length := by
        by_contra alone
        rw [eq_singleton_of_reference isReference alone] at siblings
        exact siblings rfl
      exact ⟨_, if_pos several⟩

/-- A component with a title, a type and a `$ref` that is data. -/
def titledComponent : Entries :=
  [("title", .str "component"), ("$ref", .int 1), ("type", .str "object")]

/-- The registry of it. -/
def titledRegistry : Registry :=
  [⟨"#/components/schemas/Titled", "schemas", "Titled", .map titledComponent⟩]

/-- A reference to it with siblings on both sides of `$ref`. -/
def titledReference : Entries :=
  [("note", .str "before"), ("title", .str "before"), ("$ref", .str "#/components/schemas/Titled"),
    ("type", .str "after"), ("format", .str "after")]

/-- What it becomes. -/
def titledSplice : Entries :=
  [("note", .str "before"), ("title", .str "component"), ("$ref", .int 1), ("type", .str "after"),
    ("format", .str "after")]

theorem splice_overrides_of_titledReference :
    titledRegistry.KeysApart ∧ Memo.empty.Sound titledRegistry ∧ Memo.empty.Avoids [] ∧ Apart titledReference ∧
      reference? titledReference = some "#/components/schemas/Titled" ∧
      titledRegistry.direct? [] "#/components/schemas/Titled" = some (.ok (.map titledComponent)) ∧
      ((expand (titledRegistry.inline? []) (.map titledReference)).run .empty).1 = .ok (.map titledSplice) ∧
      Overrides (titledRegistry.direct? []) titledReference titledComponent titledSplice := by
  have bodies : titledRegistry.KeysApart := by decide +kernel
  have apart : (Tree.map titledReference).KeysApart := by decide +kernel
  have isReference : reference? titledReference = some "#/components/schemas/Titled" := rfl
  have resolved : titledRegistry.direct? [] "#/components/schemas/Titled" = some (.ok (.map titledComponent)) := by
    decide +kernel
  have succeeded : ((expand (titledRegistry.inline? []) (.map titledReference)).run .empty).1 =
      .ok (.map titledSplice) := by
    decide +kernel
  have sound := Memo.sound_empty titledRegistry
  have avoids := Memo.avoids_nil .empty
  have here : Apart titledReference := apart titledReference (Tree.self_mem_maps titledReference)
  obtain ⟨spliced, same, overrides⟩ :=
    (splice_overrides bodies sound avoids here isReference resolved).1 titledComponent rfl _ succeeded
  cases same
  exact ⟨bodies, sound, avoids, here, isReference, resolved, succeeded, overrides⟩

end RouteCompiler
