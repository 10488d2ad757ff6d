/-
**The keys of documents that are read.**

A JSON text names the members of its objects by texts, and no value of it is an entry by itself. A YAML text may name
them otherwise and may hold lists of entries, but an entry is never the value of a key there either. So the documents of
every source have their entries in lists alone.

* `Json.ReadsTexts`, `Json.textValue_of_read`: documents that are read as JSON, reader by reader;
* `Yaml.anyValue_of_treeOf?`, `Yaml.pairsListed_of_read`: documents that are read as YAML;
* `textKeyed_of_documentOfText`, `pairsListed_of_documentOfText`: texts;
* `Source.exists_text_of_load`: the text of a source;
* `Source.pairsListed_of_load`: sources.
-/

import RouteCompiler.Proofs.Reference.Keyed
import RouteCompiler.Proofs.Source.Node
import RouteCompiler.Source.Load

namespace RouteCompiler

/-! ### JSON -/

namespace Json

/-- What is read as a value: its keys are texts. -/
abbrev TextValue (tree : Tree) : Prop :=
  tree.ValueBy fun key => key.isText = true

theorem textValue_scalar (value : Scalar) : TextValue (.scalar value) :=
  ⟨rfl, (Tree.Atomic.scalar value).keyedBy⟩

theorem textValue_of_readNumber? {chars after : List Char} {tree : Tree}
    (found : readNumber? chars = some (.ok (tree, after))) : TextValue tree := by
  have scalar : ∃ value, tree = .scalar value := by
    unfold readNumber? at found
    dsimp only at found
    split at found
    · cases found
    · split at found
      · split at found
        · cases found
        · cases found
          exact ⟨_, rfl⟩
      · cases found
        exact ⟨_, rfl⟩
  obtain ⟨value, rfl⟩ := scalar
  exact textValue_scalar value

/-- The members that are read are named by texts. -/
def TextEntries (entries : Entries) : Prop :=
  ∀ entry ∈ entries, entry.1.isText = true ∧ TextValue entry.2

theorem textValue_map {entries : Entries} (members : TextEntries entries) : TextValue (.map entries) :=
  ⟨rfl, Tree.keyedBy_map_iff.mpr members⟩

theorem textValue_list {items : List Tree} (each : ∀ item ∈ items, TextValue item) : TextValue (.list items) :=
  ⟨rfl, Tree.keyedBy_list_iff.mpr fun item member => (each item member).keyed⟩

/-- The readers of values, members and items, with a bound on their steps. -/
structure ReadsTexts (fuel : Nat) : Prop where
  value {depth : Nat} {chars after : List Char} {tree : Tree} :
    readValue fuel depth chars = .ok (tree, after) → TextValue tree
  members {depth : Nat} {chars after : List Char} {entries : Entries} :
    readMembers fuel depth chars = .ok (entries, after) → TextEntries entries
  items {depth : Nat} {chars after : List Char} {items : List Tree} :
    readItems fuel depth chars = .ok (items, after) → ∀ item ∈ items, TextValue item

namespace ReadsTexts

variable {fuel depth : Nat} {chars after : List Char}

theorem value_step (ih : ReadsTexts fuel) {tree : Tree}
    (succeeded : readValue (fuel + 1) depth chars = .ok (tree, after)) : TextValue tree := by
  unfold readValue at succeeded
  split at succeeded
  · obtain ⟨⟨text, rest⟩, _, last⟩ := bind_ok_iff.mp succeeded
    cases last
    exact textValue_scalar _
  · split at succeeded
    · cases succeeded
    · split at succeeded
      · cases succeeded
        exact textValue_map (List.forall_mem_nil _)
      · obtain ⟨⟨entries, rest⟩, inside, last⟩ := bind_ok_iff.mp succeeded
        cases last
        exact textValue_map fun entry member => ih.members inside entry (OrderedMap.mem_of_mem_ofList member)
  · split at succeeded
    · cases succeeded
    · split at succeeded
      · cases succeeded
        exact textValue_list (List.forall_mem_nil _)
      · obtain ⟨⟨items, rest⟩, inside, last⟩ := bind_ok_iff.mp succeeded
        cases last
        exact textValue_list (ih.items inside)
  · split at succeeded
    · cases succeeded
      exact textValue_scalar _
    · cases found : readNumber? chars with
      | none =>
        rw [found] at succeeded
        cases succeeded
      | some outcome =>
        rw [found] at succeeded
        cases succeeded
        exact textValue_of_readNumber? found

theorem members_step (ih : ReadsTexts fuel) {entries : Entries}
    (succeeded : readMembers (fuel + 1) depth chars = .ok (entries, after)) : TextEntries entries := by
  unfold readMembers at succeeded
  split at succeeded
  · obtain ⟨⟨name, afterName⟩, _, later⟩ := bind_ok_iff.mp succeeded
    dsimp only at later
    split at later
    · obtain ⟨⟨value, afterValue⟩, atValue, further⟩ := bind_ok_iff.mp later
      dsimp only at further
      split at further
      · cases further
        exact List.forall_mem_singleton.mpr ⟨rfl, ih.value atValue⟩
      · obtain ⟨⟨others, rest⟩, atOthers, last⟩ := bind_ok_iff.mp further
        cases last
        exact List.forall_mem_cons.mpr ⟨⟨rfl, ih.value atValue⟩, ih.members atOthers⟩
      · cases further
    · cases later
  · cases succeeded

theorem items_step (ih : ReadsTexts fuel) {items : List Tree}
    (succeeded : readItems (fuel + 1) depth chars = .ok (items, after)) : ∀ item ∈ items, TextValue item := by
  unfold readItems at succeeded
  obtain ⟨⟨item, afterItem⟩, atItem, later⟩ := bind_ok_iff.mp succeeded
  dsimp only at later
  split at later
  · cases later
    exact List.forall_mem_singleton.mpr (ih.value atItem)
  · obtain ⟨⟨others, rest⟩, atOthers, last⟩ := bind_ok_iff.mp later
    cases last
    exact List.forall_mem_cons.mpr ⟨ih.value atItem, ih.items atOthers⟩
  · cases later

end ReadsTexts

theorem readsTexts (fuel : Nat) : ReadsTexts fuel := by
  induction fuel with
  | zero => exact ⟨nofun, nofun, nofun⟩
  | succ fuel ih => exact ⟨ih.value_step, ih.members_step, ih.items_step⟩

/-- **All keys of a document that is read as JSON are texts.** -/
theorem textValue_of_read {text : String} {tree : Tree} (succeeded : read text = .ok tree) : TextValue tree := by
  have ofChars : readChars text.toList = .ok tree := by
    unfold read at succeeded
    split at succeeded
    · rename_i value read
      cases succeeded
      exact read
    · cases succeeded
  unfold readChars at ofChars
  split at ofChars
  · cases ofChars
  · obtain ⟨⟨value, after⟩, atValue, last⟩ := bind_ok_iff.mp ofChars
    dsimp only at last
    split at last
    · cases last
      exact (readsTexts _).value atValue
    · cases last

end Json

/-! ### YAML -/

namespace Yaml

/-- What is read as a value, whatever its keys are. -/
abbrev AnyValue (tree : Tree) : Prop :=
  tree.ValueBy fun _ => True

/-- **An entry by itself is made as the item of a list alone.** -/
theorem anyValue_of_treeOf? {made : Array (Option Made)} {fuel : Nat} {id : NodeId} {tree : Tree}
    (found : treeOf? made fuel id = some tree) : AnyValue tree := by
  induction fuel generalizing id tree with
  | zero => cases found
  | succ fuel ih =>
    have grows := treeOf?_succ_iff.mp found
    generalize made[id]?.join = content at grows
    cases grows with
    | absent => exact ⟨rfl, (Tree.Atomic.scalar _).keyedBy⟩
    | scalar value => exact ⟨rfl, (Tree.Atomic.scalar _).keyedBy⟩
    | set members => exact ⟨rfl, (Tree.Atomic.set _).keyedBy⟩
    | list each =>
      refine ⟨rfl, Tree.keyedBy_list_iff.mpr fun item member => ?_⟩
      obtain ⟨_, _, atItem⟩ := exists_left_of_mem each member
      exact (ih atItem).keyed
    | map each =>
      refine ⟨rfl, Tree.keyedBy_map_iff.mpr fun entry member => ⟨trivial, ?_⟩⟩
      obtain ⟨_, _, _, atValue⟩ := exists_left_of_mem each member
      exact ih atValue
    | pairs each =>
      refine ⟨rfl, Tree.keyedBy_list_iff.mpr fun item member => ?_⟩
      obtain ⟨_, _, key, value, rfl, _, _⟩ := exists_left_of_mem each member
      exact (Tree.Atomic.pair key value).keyedBy

theorem pairsListed_of_ofNode {made : Array (Option Made)} {id : NodeId} {tree : Tree}
    (found : Parsed.ofNode made id = .tree tree) : tree.PairsListed := by
  unfold Parsed.ofNode at found
  split at found
  · rename_i whole isTree
    cases found
    exact (anyValue_of_treeOf? isTree).keyed
  · cases found

/-- **Documents that are read as YAML** have their entries in lists alone. -/
theorem pairsListed_of_read {text : String} {tree : Tree} (succeeded : read text = .ok (.tree tree)) :
    tree.PairsListed := by
  obtain ⟨document?, _, later⟩ := bind_ok_iff.mp succeeded
  cases document? with
  | none =>
    cases later
    exact (Tree.Atomic.scalar _).keyedBy
  | some document =>
    obtain ⟨⟨_, making⟩, _, last⟩ := bind_ok_iff.mp later
    exact pairsListed_of_ofNode (Except.ok.inj last)

end Yaml

/-! ### Sources -/

theorem pairsListed_of_documentOfYaml {json : Option Json.ReadError} {text : String} {document : Tree}
    (accepted : documentOfYaml json text = .ok (.tree document)) : document.PairsListed := by
  unfold documentOfYaml at accepted
  split at accepted
  · rename_i read succeeded
    obtain ⟨rfl, _⟩ := ensureObject_ok_iff.mp accepted
    exact Yaml.pairsListed_of_read succeeded
  · cases accepted

/-- **All keys of a document that is known to be JSON are texts**, and such a document is a tree. -/
theorem textKeyed_of_documentOfText {text : String} {read : Yaml.Parsed}
    (accepted : documentOfText .json text = .ok read) : ∃ document, read = .tree document ∧ document.TextKeyed := by
  rw [documentOfText, if_neg nofun] at accepted
  split at accepted
  · rename_i tree succeeded
    obtain ⟨rfl, _⟩ := ensureObject_ok_iff.mp accepted
    exact ⟨tree, rfl, (Json.textValue_of_read succeeded).keyed⟩
  · split at accepted
    · cases accepted
    · rw [if_pos rfl] at accepted
      cases accepted

/-- **A document has its entries in lists alone**, whatever form its text has. -/
theorem pairsListed_of_documentOfText {form : TextForm} {text : String} {document : Tree}
    (accepted : documentOfText form text = .ok (.tree document)) : document.PairsListed := by
  unfold documentOfText at accepted
  split at accepted
  · exact pairsListed_of_documentOfYaml accepted
  · split at accepted
    · rename_i tree succeeded
      obtain ⟨same, _⟩ := ensureObject_ok_iff.mp accepted
      cases same
      exact (Json.textValue_of_read succeeded).keyed.mono fun _ _ => trivial
    · split at accepted
      · cases accepted
      · split at accepted
        · cases accepted
        · exact pairsListed_of_documentOfYaml accepted

namespace Source

variable {world : World} {document : Yaml.Parsed}

/-- The document of bytes is that of their text, which is not blank. -/
theorem exists_text_of_bytes {name : String} {bytes : ByteArray} {form : TextForm} {problem : DocumentProblem}
    (read : (do
      let text ← decoded name bytes
      if Text.isAllBlank text then throw (.document problem)
      documentOfText form text : Except Failure Yaml.Parsed) = .ok document) :
    ∃ text, documentOfText form text = .ok document := by
  obtain ⟨text, _, later⟩ := bind_ok_iff.mp read
  split at later
  · cases later
  · exact ⟨text, later⟩

theorem exists_text_of_documentOfReply {url : String} {reply : Reply}
    (answered : documentOfReply url reply = .ok document) : ∃ form text, documentOfText form text = .ok document := by
  unfold documentOfReply at answered
  split at answered
  · cases answered
  · dsimp only at answered
    split at answered
    · cases answered
    · split at answered
      · cases answered
      · obtain ⟨text, _, later⟩ := bind_ok_iff.mp answered
        exact ⟨_, text, later⟩

/-- **A document that is loaded is that of a text**, wherever the text comes from. -/
theorem exists_text_of_load {source : Source} (loaded : (source.load world).outcome.1 = .ok document) :
    ∃ form text, documentOfText form text = .ok document := by
  cases source with
  | input =>
    change loadInput world = .ok document at loaded
    unfold loadInput at loaded
    split at loaded
    · cases loaded
    · exact ⟨_, exists_text_of_bytes loaded⟩
  | file name =>
    change loadFile world name = .ok document at loaded
    unfold loadFile at loaded
    dsimp only at loaded
    split at loaded
    · cases loaded
    · cases loaded
    · cases loaded
    · exact ⟨_, exists_text_of_bytes loaded⟩
  | server url =>
    change documentOfServer world url = .ok document at loaded
    unfold documentOfServer at loaded
    split at loaded
    · exact exists_text_of_documentOfReply loaded
    · cases loaded

/-- **The documents of every source have their entries in lists alone.** -/
theorem pairsListed_of_load {source : Source} {tree : Tree}
    (loaded : (source.load world).outcome.1 = .ok (.tree tree)) : tree.PairsListed := by
  obtain ⟨_, _, read⟩ := exists_text_of_load loaded
  exact pairsListed_of_documentOfText read

end Source

end RouteCompiler
