/-
**Trees of nodes.**

The tree below a node is put together of the trees of its parts, and which part of the tree is that of which part of
the node is told by what stands at the node. So whatever goes down from node to node is looked at for one node.

* `Yaml.Grows`: a tree is put together of the trees of the parts of a node;
* `Yaml.treeOf?_succ_iff`, `Yaml.unfold_of_grows`: the tree below a node, and the tree with knots;
* `Yaml.treeOf?_succ`: a tree does not depend on how many nodes may be inside each other;
* `Yaml.unfold_eq_of_treeOf?`: a tree has no knots.
-/

import RouteCompiler.Proofs.Computation
import RouteCompiler.Yaml.Endless

namespace RouteCompiler.Yaml

/-! ### One node -/

/-- A tree is put together of the trees of the parts of what stands at a node. -/
inductive Grows (below : NodeId → Tree → Prop) : Option Made → Tree → Prop
  /-- Nothing stands there. -/
  | absent : Grows below none .null
  /-- A value without parts. -/
  | scalar (value : Scalar) : Grows below (some (.scalar value)) (.scalar value)
  /-- Keys without values. -/
  | set (members : List Scalar) : Grows below (some (.set members)) (.set members)
  /-- Items in order. -/
  | list {items : List NodeId} {parts : List Tree} (each : List.Forall₂ below items parts) :
      Grows below (some (.list items)) (.list parts)
  /-- Entries in order, each key once. -/
  | map {entries : List (Scalar × NodeId)} {parts : Entries}
      (each : List.Forall₂ (fun entry part => entry.1 = part.1 ∧ below entry.2 part.2) (Entries.ofList entries) parts) :
      Grows below (some (.map entries)) (.map parts)
  /-- Entries that are the items of a list. -/
  | pairs {entries : List (NodeId × NodeId)} {parts : List Tree}
      (each : List.Forall₂ (fun entry part => ∃ key value, part = .pair key value ∧ below entry.1 key ∧
        below entry.2 value) entries parts) :
      Grows below (some (.pairs entries)) (.list parts)

variable {below other : NodeId → Tree → Prop} {content : Option Made} {tree : Tree}

theorem Grows.mono (grows : Grows below content tree) (each : ∀ node part, below node part → other node part) :
    Grows other content tree := by
  cases grows with
  | absent => exact .absent
  | scalar value => exact .scalar value
  | set members => exact .set members
  | list items => exact .list (items.imp each)
  | map entries => exact .map (entries.imp fun _ _ ⟨sameKey, value⟩ => ⟨sameKey, each _ _ value⟩)
  | pairs entries =>
    exact .pairs (entries.imp fun _ _ ⟨key, value, same, atKey, atValue⟩ =>
      ⟨key, value, same, each _ _ atKey, each _ _ atValue⟩)

variable {made : Array (Option Made)} {fuel : Nat} {id : NodeId}

/-- **The tree below a node** is put together of those below its parts. -/
theorem treeOf?_succ_iff :
    treeOf? made (fuel + 1) id = some tree ↔
      Grows (fun node part => treeOf? made fuel node = some part) made[id]?.join tree := by
  rw [treeOf?]
  generalize made[id]?.join = content
  constructor
  · intro found
    match content with
    | none =>
      cases found
      exact .absent
    | some (.scalar value) =>
      cases found
      exact .scalar value
    | some (.set members) =>
      cases found
      exact .set members
    | some (.list items) =>
      obtain ⟨parts, atItems, last⟩ := Option.bind_eq_some_iff.mp found
      cases last
      exact .list (mapM_eq_some_iff.mp atItems)
    | some (.map entries) =>
      obtain ⟨parts, atEntries, last⟩ := Option.bind_eq_some_iff.mp found
      cases last
      refine .map ((mapM_eq_some_iff.mp atEntries).imp fun entry _ atEntry => ?_)
      obtain ⟨value, atValue, same⟩ := Option.bind_eq_some_iff.mp atEntry
      cases same
      exact ⟨rfl, atValue⟩
    | some (.pairs entries) =>
      obtain ⟨parts, atEntries, last⟩ := Option.bind_eq_some_iff.mp found
      cases last
      refine .pairs ((mapM_eq_some_iff.mp atEntries).imp fun entry _ atEntry => ?_)
      obtain ⟨key, atKey, later⟩ := Option.bind_eq_some_iff.mp atEntry
      obtain ⟨value, atValue, same⟩ := Option.bind_eq_some_iff.mp later
      cases same
      exact ⟨key, value, rfl, atKey, atValue⟩
  · intro grows
    cases grows with
    | absent => rfl
    | scalar value => rfl
    | set members => rfl
    | list each => exact Option.bind_eq_some_iff.mpr ⟨_, mapM_eq_some_iff.mpr each, rfl⟩
    | map each =>
      refine Option.bind_eq_some_iff.mpr ⟨_, mapM_eq_some_iff.mpr (each.imp ?_), rfl⟩
      rintro ⟨key, node⟩ ⟨_, value⟩ ⟨rfl, atValue⟩
      exact Option.bind_eq_some_iff.mpr ⟨value, atValue, rfl⟩
    | pairs each =>
      refine Option.bind_eq_some_iff.mpr ⟨_, mapM_eq_some_iff.mpr (each.imp ?_), rfl⟩
      rintro _ _ ⟨key, value, rfl, atKey, atValue⟩
      exact Option.bind_eq_some_iff.mpr ⟨key, atKey, Option.bind_eq_some_iff.mpr ⟨value, atValue, rfl⟩⟩

theorem map_eq_of_forall₂ {α β : Type} {change : α → β} {items : List α} {results : List β}
    (each : List.Forall₂ (fun item result => change item = result) items results) : items.map change = results :=
  List.forall₂_eq_eq_eq ▸ List.forall₂_map_left_iff.mpr each

/-- The tree with knots below a node that is not on the path to it. -/
theorem unfold_of_grows {knot : Tree} {path : List NodeId} (offPath : id ∉ path)
    (grows : Grows (fun node part => ∀ knot, unfold made knot fuel (id :: path) node = part) made[id]?.join tree) :
    unfold made knot (fuel + 1) path id = tree := by
  rw [unfold, if_neg offPath]
  generalize made[id]?.join = content at grows
  cases grows with
  | absent => rfl
  | scalar value => rfl
  | set members => rfl
  | list each => exact congrArg Tree.list (map_eq_of_forall₂ (each.imp fun _ _ atItem => atItem knot))
  | map each =>
    refine congrArg Tree.map (map_eq_of_forall₂ (each.imp ?_))
    rintro ⟨key, node⟩ ⟨_, value⟩ ⟨rfl, atValue⟩
    exact congrArg (Prod.mk key) (atValue knot)
  | pairs each =>
    refine congrArg Tree.list (map_eq_of_forall₂ (each.imp ?_))
    rintro _ _ ⟨key, value, rfl, atKey, atValue⟩
    exact congrArg₂ Tree.pair (atKey hiddenKnot) (atValue hiddenKnot)

/-! ### Nodes below a node -/

/-- A tree does not depend on how many nodes may be inside each other. -/
theorem treeOf?_succ (found : treeOf? made fuel id = some tree) : treeOf? made (fuel + 1) id = some tree := by
  induction fuel generalizing id tree with
  | zero => cases found
  | succ fuel ih => exact treeOf?_succ_iff.mpr ((treeOf?_succ_iff.mp found).mono fun _ _ => ih)

theorem treeOf?_eq_none_of_succ (noTree : treeOf? made (fuel + 1) id = none) : treeOf? made fuel id = none := by
  by_contra isTree
  obtain ⟨tree, found⟩ := Option.ne_none_iff_exists'.mp isTree
  cases noTree.symm.trans (treeOf?_succ found)

/-- **A tree has no knots.** The nodes on the path to it have none with as few nodes inside each other. -/
theorem unfold_eq_of_treeOf? {knot : Tree} {steps : Nat} {path : List NodeId} (enough : fuel ≤ steps)
    (found : treeOf? made fuel id = some tree) (above : ∀ node ∈ path, treeOf? made fuel node = none) :
    unfold made knot steps path id = tree := by
  induction fuel generalizing knot steps path id tree with
  | zero => cases found
  | succ fuel ih =>
    have aboveBefore : ∀ node ∈ path, treeOf? made fuel node = none :=
      fun node member => treeOf?_eq_none_of_succ (above node member)
    cases earlier : treeOf? made fuel id with
    | some other =>
      cases found.symm.trans (treeOf?_succ earlier)
      exact ih (Nat.le_of_succ_le enough) earlier aboveBefore
    | none =>
      -- the node has its first tree here, so it is not on the path and neither is it below itself
      obtain ⟨steps, rfl⟩ := Nat.exists_eq_add_of_lt enough
      have offPath : id ∉ path := fun member => by cases (above id member).symm.trans found
      have below : ∀ node ∈ id :: path, treeOf? made fuel node = none :=
        List.forall_mem_cons.mpr ⟨earlier, aboveBefore⟩
      refine unfold_of_grows offPath ((treeOf?_succ_iff.mp found).mono fun node part atPart knot => ?_)
      exact ih (Nat.le_add_right _ _) atPart below

end RouteCompiler.Yaml
