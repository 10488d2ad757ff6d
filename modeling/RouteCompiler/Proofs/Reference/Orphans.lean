/-
**The references that are reported.**

The references that remain are read off the document after substitution, and yet they are those of the
document as it was written: the ones that are not registered. Those inside the body of a component are found
where the component is defined, wherever else its body has been put. A `$ref` whose value is itself a
reference to a component that is a text comes to them, since it is a reference only afterwards.

* `remains_of_content`: a reference in what a pointer stands for remains from the document;
* `mem_occurrences_substituted`: the references of a document after substitution;
* `Registry.Forms`, `Registry.Orphan`: what is reported, said of the document as it was written;
* `orphans_of_references`: when a document is resolved, and what is reported otherwise.
-/

import RouteCompiler.Proofs.Reference.Document
import RouteCompiler.Proofs.Reference.Remains

namespace RouteCompiler

open Entries (Apart)

variable {registry : Registry} {document : Tree}

/-! ### Components -/

/-- No map of a component has a key twice. -/
def Registry.KeysApart (registry : Registry) : Prop :=
  ∀ pointer ∈ registry.pointers, ∀ body ∈ registry.body? pointer, body.KeysApart

instance (registry : Registry) : Decidable registry.KeysApart :=
  inferInstanceAs (Decidable (∀ pointer ∈ registry.pointers, ∀ body ∈ registry.body? pointer, body.KeysApart))

/-- Components whose maps have no key twice stand for trees whose maps have none. -/
theorem Registry.KeysApart.direct (bodies : registry.KeysApart) {chain : List Pointer} {pointer : Pointer}
    {content : Tree} (known : registry.direct? chain pointer = some (.ok content)) : content.KeysApart := by
  induction chain using registry.chain_induction generalizing pointer content with
  | step chain ih =>
    obtain ⟨body, isBody, fresh, succeeded⟩ := Registry.direct?_ok_iff.mp known
    have registered := Registry.mem_pointers_of_body? isBody
    refine keysApart_of_expand (fun next inner => ?_) (bodies pointer registered body isBody) succeeded
    exact ih pointer registered fresh

/-- A document whose maps have no key twice has components whose maps have none. -/
theorem keysApart_of_direct (registered : registryOf document = .ok registry) (apart : document.KeysApart)
    {chain : List Pointer} {pointer : Pointer} {content : Tree}
    (known : registry.direct? chain pointer = some (.ok content)) : content.KeysApart :=
  Registry.KeysApart.direct (fun _ _ _ isBody => apart.subset (maps_body_subset registered isBody)) known

theorem keysApart_direct (registered : registryOf document = .ok registry) (apart : document.KeysApart)
    (chain : List Pointer) : Meaning.KeysApart (registry.direct? chain) := by
  intro pointer content known
  have apartContent := keysApart_of_direct registered apart (Meaning.of_map?_eq_some known)
  exact apartContent content (Tree.self_mem_maps content)

/-- **A reference in what a pointer stands for remains from the document.** -/
theorem remains_of_content (registered : registryOf document = .ok registry) (apart : document.KeysApart)
    {chain : List Pointer} {pointer : Pointer} {content : Tree}
    (known : registry.direct? chain pointer = some (.ok content)) {text : String}
    (found : text ∈ occurrences content) : Remains (registry.direct? []) document text := by
  induction chain using registry.chain_induction generalizing pointer content with
  | step chain ih =>
    obtain ⟨body, isBody, fresh, succeeded⟩ := Registry.direct?_ok_iff.mp known
    have stands := maps_body_subset registered isBody
    rcases remains_of_mem_occurrences (keysApart_direct registered apart _) (apart.subset stands) succeeded
      found with ⟨node, member, leaves⟩ | ⟨next, inner, knownNext, inInner⟩
    · exact ⟨node, stands member, leaves.of_agrees (Registry.agrees_of_subset (List.nil_subset _))⟩
    · exact ih pointer (Registry.mem_pointers_of_body? isBody) fresh knownNext inInner

/-! ### Documents without components -/

variable {meaning : Meaning}

/-- An empty map in the place of nothing, or of an absent value, leaves nothing and hides nothing. -/
theorem remains_insert_iff {entries : Entries} (distinct : OrderedMap.Distinct entries) {key : Scalar}
    (notRef : key ≠ refKey)
    (missing : OrderedMap.get? entries key = none ∨ OrderedMap.get? entries key = some .null)
    {text : String} :
    Remains meaning (.map (OrderedMap.insert entries key (.map []))) text ↔
      Remains meaning (.map entries) text := by
  have atRef : OrderedMap.get? (OrderedMap.insert entries key (.map [])) refKey =
      OrderedMap.get? entries refKey := by
    rw [OrderedMap.get?_insert, if_neg notRef]
  constructor
  · intro remains
    rcases remains_map_iff.mp remains with leaves | ⟨entry, member, inEntry⟩
    · exact remains_map_iff.mpr (Or.inl (leaves.congr atRef))
    · rcases OrderedMap.mem_insert_cases member with rfl | old
      · rcases remains_map_iff.mp inEntry with leaves | ⟨_, inEmpty, _⟩
        · cases leaves with
          | unknown isReference absent => cases isReference
          | formed value found => cases value
        · cases inEmpty
      · exact remains_map_iff.mpr (Or.inr ⟨entry, old, inEntry⟩)
  · intro remains
    rcases remains_map_iff.mp remains with leaves | ⟨⟨other, value⟩, member, inEntry⟩
    · exact remains_map_iff.mpr (Or.inl (leaves.congr atRef.symm))
    · have found := OrderedMap.get?_eq_some_of_mem distinct member
      have apart : key ≠ other := by
        rintro rfl
        rcases missing with absent | isNull
        · cases found.symm.trans absent
        · cases found.symm.trans isNull
          exact not_remains_of_atomic (.scalar _) inEntry
      have kept : OrderedMap.get? (OrderedMap.insert entries key (.map [])) other = some value := by
        rw [OrderedMap.get?_insert, if_neg apart, found]
      exact remains_map_iff.mpr (Or.inr ⟨_, OrderedMap.mem_of_get?_eq_some kept, inEntry⟩)

theorem remains_completed_iff (apart : document.KeysApart) {text : String} :
    Remains meaning (completed document) text ↔ Remains meaning document text := by
  cases document with
  | map entries =>
    rw [completed, withComponents]
    split
    · rename_i missing
      exact remains_insert_iff (apart entries (Tree.self_mem_maps entries)).distinct (by decide) missing
    · rfl
  | _ => rfl

theorem keysApart_completed (apart : document.KeysApart) : (completed document).KeysApart := by
  cases document with
  | map entries =>
    rw [completed, withComponents]
    split
    · have atEntries := apart entries (Tree.self_mem_maps entries)
      intro node inside
      rcases Tree.mem_maps_map.mp inside with rfl | ⟨entry, member, inEntry⟩
      · rw [← Entries.insert_str]
        exact atEntries.insert _ _
      · rcases OrderedMap.mem_insert_cases member with rfl | old
        · rcases Tree.mem_maps_map.mp inEntry with rfl | ⟨_, inEmpty, _⟩
          · exact List.Pairwise.nil
          · cases inEmpty
        · exact apart node (Tree.mem_maps_map.mpr (Or.inr ⟨entry, old, inEntry⟩))
    · exact apart
  | _ => exact apart

/-! ### Documents -/

/-- **Resolving makes no key stand twice**, wherever it stands. -/
theorem keysApart_substituted {resolved : Tree} (apart : document.KeysApart)
    (succeeded : substituted document = .ok resolved) : resolved.KeysApart := by
  obtain ⟨registry, registered, inside⟩ := bind_ok_iff.mp succeeded
  exact keysApart_of_expand (fun _ _ => keysApart_of_direct registered apart) (keysApart_completed apart) inside

/-- No reference of a document has a key before `$ref` that its component defines as well. -/
def Registry.KeepsSiblings (registry : Registry) (document : Tree) : Prop :=
  ∀ node ∈ document.maps, Meaning.KeepsSiblings (registry.direct? []) node

instance (registry : Registry) (document : Tree) : Decidable (registry.KeepsSiblings document) :=
  inferInstanceAs (Decidable (∀ node ∈ document.maps, Meaning.KeepsSiblings (registry.direct? []) node))

/-- Where nothing is registered, no sibling is set again. -/
theorem keepsSiblings_nil (document : Tree) : Registry.KeepsSiblings [] document := by
  intro node _ pointer _ content known
  have absent : Registry.direct? [] [] pointer = none := Registry.direct?_of_none rfl []
  cases absent.symm.trans (Meaning.of_map?_eq_some known)

theorem keepsSiblings_completed (registered : registryOf document = .ok registry)
    (keeps : registry.KeepsSiblings document) : registry.KeepsSiblings (completed document) := by
  cases document with
  | map entries =>
    rcases completed_cases entries with ⟨empty, _⟩ | ⟨complete, _⟩
    · cases registered.symm.trans empty
      exact keepsSiblings_nil _
    · rw [completed, complete]
      exact keeps
  | _ => exact keeps

/-- **The references of a document after substitution** are what remains of it. -/
theorem mem_occurrences_substituted {resolved : Tree} (apart : document.KeysApart)
    (registered : registryOf document = .ok registry) (succeeded : substituted document = .ok resolved)
    (keeps : registry.KeepsSiblings document) {text : String} :
    text ∈ occurrences resolved ↔ Remains (registry.direct? []) document text := by
  rw [substituted, registered, ok_bind, Registry.resolveDirect] at succeeded
  have contents := keysApart_direct registered apart []
  have complete := keysApart_completed apart
  constructor
  · intro found
    rcases remains_of_mem_occurrences contents complete succeeded found with
      remains | ⟨pointer, content, known, inContent⟩
    · exact (remains_completed_iff apart).mp remains
    · exact remains_of_content registered apart known inContent
  · intro remains
    exact mem_occurrences_of_remains contents complete (keepsSiblings_completed registered keeps) succeeded
      ((remains_completed_iff apart).mpr remains)

/-- A text becomes a reference: it is what a component stands for that is referred to under the `$ref` of a
map. -/
def Registry.Forms (registry : Registry) (document : Tree) (text : String) : Prop :=
  ∃ node ∈ document.maps, ∃ pointer,
    OrderedMap.get? node refKey = some (.map [(refKey, .str pointer)]) ∧
      registry.direct? [] pointer = some (.ok (.str text))

/-- A reference of a document to no component, or a text that becomes one. -/
def Registry.Orphan (registry : Registry) (document : Tree) (text : String) : Prop :=
  (text ∈ occurrences document ∧ text ∉ registry.pointers) ∨ registry.Forms document text

theorem remains_iff_orphan {text : String} :
    Remains (registry.direct? []) document text ↔ registry.Orphan document text := by
  constructor
  · rintro ⟨node, member, leaves⟩
    cases leaves with
    | unknown isReference absent =>
      exact Or.inl ⟨(mem_occurrences_iff document text).mpr ⟨node, member, isReference⟩,
        Registry.direct?_eq_none_iff.mp absent⟩
    | formed value found => exact Or.inr ⟨node, member, _, value, found⟩
  · rintro (⟨found, unregistered⟩ | ⟨node, member, pointer, value, found⟩)
    · obtain ⟨node, member, isReference⟩ := (mem_occurrences_iff document text).mp found
      exact ⟨node, member, .unknown isReference (Registry.direct?_eq_none_iff.mpr unregistered)⟩
    · exact ⟨node, member, .formed value found⟩

/-- **A document is resolved exactly when each of its references is registered and none is formed.** What is
reported otherwise are the references that are not registered and those that are formed, each once. -/
theorem orphans_of_references {resolved : Tree} (apart : document.KeysApart)
    (registered : registryOf document = .ok registry) (succeeded : substituted document = .ok resolved)
    (keeps : registry.KeepsSiblings document) :
    ((∃ result, (resolveDocument document).outcome.1 = .ok result) ↔
        (∀ pointer ∈ occurrences document, pointer ∈ registry.pointers) ∧
          ∀ text, ¬ registry.Forms document text) ∧
      ((∃ text, registry.Orphan document text) →
        ∃ orphans, (resolveDocument document).outcome.1 = .error (.unresolved orphans) ∧ orphans.Nodup ∧
          ∀ text, text ∈ orphans ↔ registry.Orphan document text) := by
  have reported (text : String) : text ∈ references resolved ↔ registry.Orphan document text := by
    rw [mem_references, mem_occurrences_substituted apart registered succeeded keeps, remains_iff_orphan]
  have outcome : (resolveDocument document).outcome.1 = withoutOrphans resolved := by
    rw [resolveDocument_outcome, succeeded, ok_bind]
  rw [outcome, withoutOrphans]
  constructor
  · constructor
    · rintro ⟨result, resolves⟩
      split at resolves
      · rename_i none
        have noOrphan (text : String) : ¬ registry.Orphan document text := by
          rw [← reported, List.isEmpty_iff.mp none]
          exact List.not_mem_nil
        refine ⟨fun pointer found => ?_, fun text formed => noOrphan text (Or.inr formed)⟩
        by_contra unregistered
        exact noOrphan pointer (Or.inl ⟨found, unregistered⟩)
      · cases resolves
    · rintro ⟨all, notFormed⟩
      refine ⟨resolved, if_pos (List.isEmpty_iff.mpr (List.eq_nil_iff_forall_not_mem.mpr ?_))⟩
      intro text member
      rcases (reported text).mp member with ⟨found, unregistered⟩ | formed
      · exact unregistered (all text found)
      · exact notFormed text formed
  · rintro ⟨text, orphan⟩
    refine ⟨references resolved, if_neg ?_, nodup_references resolved, reported⟩
    intro none
    have member := (reported text).mpr orphan
    rw [List.isEmpty_iff.mp none] at member
    cases member

/-- A document with a reference of each sort: one to a component with a sibling before it, two to nothing, in
a sibling and in a component, and one to a text under a `$ref`. -/
def strayDocument : Tree :=
  .map [
    ("components", .map [("schemas", .map [("Name", .str "text"), ("Item", strayBody)])]),
    ("paths", .map [
      ("/first", .map [("note", .map [(refKey, .str "missing")]), (refKey, .str "#/components/schemas/Item")]),
      ("/second", .map [(refKey, .map [(refKey, .str "#/components/schemas/Name")])])])]
where
  strayBody : Tree := .map [("link", .map [(refKey, .str "#/elsewhere")])]

/-- The components of the document. -/
def strayComponents : Registry :=
  [⟨"#/components/schemas/Name", "schemas", "Name", .str "text"⟩,
    ⟨"#/components/schemas/Item", "schemas", "Item", strayDocument.strayBody⟩]

/-- The document after substitution. -/
def strayResolved : Tree :=
  .map [
    ("components", .map [("schemas", .map [("Name", .str "text"), ("Item", strayDocument.strayBody)])]),
    ("paths", .map [
      ("/first", .map [("note", .map [(refKey, .str "missing")]), ("link", .map [(refKey, .str "#/elsewhere")])]),
      ("/second", .map [(refKey, .str "text")])])]

theorem orphans_of_strayDocument :
    strayDocument.KeysApart ∧ registryOf strayDocument = .ok strayComponents ∧
      substituted strayDocument = .ok strayResolved ∧ strayComponents.KeepsSiblings strayDocument ∧
      ∃ orphans, (resolveDocument strayDocument).outcome.1 = .error (.unresolved orphans) ∧ orphans.Nodup ∧
        ∀ text, text ∈ orphans ↔ strayComponents.Orphan strayDocument text := by
  have apart : strayDocument.KeysApart := by decide +kernel
  have registered : registryOf strayDocument = .ok strayComponents := rfl
  have succeeded : substituted strayDocument = .ok strayResolved := by decide +kernel
  have keeps : strayComponents.KeepsSiblings strayDocument := by decide +kernel
  have orphan : strayComponents.Orphan strayDocument "missing" := Or.inl (by decide +kernel)
  exact ⟨apart, registered, succeeded, keeps,
    (orphans_of_references apart registered succeeded keeps).2 ⟨_, orphan⟩⟩

/-- A document whose only reference is to a component, a text, under a `$ref`. -/
def formingDocument : Tree :=
  .map [
    ("components", .map [("schemas", .map [("S", .str "foo")])]),
    ("x", .map [(refKey, .map [(refKey, .str "#/components/schemas/S")])])]

/-- It is not enough that all references are registered: one may be formed. -/
theorem registered_references_not_enough :
    ¬ ∀ (document resolved : Tree) (registry : Registry), document.KeysApart →
      registryOf document = .ok registry → substituted document = .ok resolved →
      registry.KeepsSiblings document →
      ((∃ result, (resolveDocument document).outcome.1 = .ok result) ↔
        ∀ pointer ∈ occurrences document, pointer ∈ registry.pointers) := by
  intro enough
  have registered : registryOf formingDocument =
      .ok [⟨"#/components/schemas/S", "schemas", "S", .str "foo"⟩] := rfl
  have succeeded : substituted formingDocument = .ok (.map [
      ("components", .map [("schemas", .map [("S", .str "foo")])]), ("x", .map [(refKey, .str "foo")])]) := by
    decide +kernel
  have resolves := (enough formingDocument _ _ (by decide +kernel) registered succeeded
    (by decide +kernel)).mpr (by decide +kernel)
  have refused : (resolveDocument formingDocument).outcome.1 = .error (.unresolved ["foo"]) := by
    rw [resolveDocument_outcome, succeeded]
    rfl
  obtain ⟨result, same⟩ := resolves
  rw [refused] at same
  cases same

end RouteCompiler
