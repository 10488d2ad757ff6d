/-
**From nodes to a document.**

What a node stands for is told by its tag. A scalar has its value at once. A collection is empty at first
and waits; the collections that wait are filled one after another, so what is near to the root is made
before what is further down, and of several faults the one that is met first counts. A node that is used
in several places is made once.

The entries of the mappings under a merge key are put in front of the entries of the mapping that has it,
those of a later mapping of a list before those of an earlier one. A repeated key keeps its first place
and its last value, so an entry of the mapping itself wins.

A collection that is waiting can be used already, so it may come to be part of itself. There is no tree of
such a document, and it is kept as what is made of its nodes.

* `Made`: what is made of a node;
* `flatten`: a mapping with the entries under its merge keys;
* `make`: starts a node;
* `fillOne`: fills a collection;
* `treeOf?`: the tree below a node;
* `Endless`, `Parsed`: what is read: a tree, or a collection without one;
* `read`: the document of a text.
-/

import RouteCompiler.Tree.Key
import RouteCompiler.Yaml.Node.Grammar
import RouteCompiler.Yaml.Value

namespace RouteCompiler.Yaml

/-! ### State -/

/-- What is made of a node. The parts of a collection are named by their nodes. -/
inductive Made where
  /-- A value without parts. -/
  | scalar (value : Scalar)
  /-- Items in order. -/
  | list (items : List NodeId)
  /-- Entries in order, a repeated key more than once. -/
  | map (entries : List (Scalar × NodeId))
  /-- Entries that are the items of a list. -/
  | pairs (entries : List (NodeId × NodeId))
  /-- Keys without values. -/
  | set (members : List Scalar)
  deriving Repr, Inhabited

/-- The nodes of a document, what is made of them so far, and the collections in the order in which they
are filled. -/
structure Making where
  nodes : Nodes
  /-- The number of merge keys in the document. -/
  merges : Nat
  made : Array (Option Made)
  waiting : Array NodeId

/-- A computation that makes nodes. -/
abbrev MakingM := StateT Making (Except Fault)

/-- The nodes of the document. -/
def nodesNow : MakingM Nodes := do
  return (← get).nodes

/-- What is made of a node already. -/
def madeOf? (id : NodeId) : MakingM (Option Made) := do
  return (← get).made[id]?.join

/-- Remembers what is made of a node. -/
def remember (id : NodeId) (made : Made) : MakingM Unit :=
  modify fun making => { making with made := making.made.set! id (some made) }

/-! ### Merge keys -/

/-- Whether a node is a merge key. -/
def isMergeKey (nodes : Nodes) (id : NodeId) : Bool :=
  nodes.tag id == Tag.merge.fullName

/-- The value of the first merge key among entries, and the entries without it. -/
def takeMerge? (nodes : Nodes) : List (NodeId × NodeId) → Option (NodeId × List (NodeId × NodeId))
  | [] => none
  | (key, value) :: rest =>
    if isMergeKey nodes key then some (value, rest)
    else (takeMerge? nodes rest).map fun (found, others) => (found, (key, value) :: others)

/-- The mappings that the value of a merge key stands for. Every item of a list must be one, which is
found out item by item. -/
def sourcesOf (nodes : Nodes) (value : NodeId) : Except Fault (List NodeId) :=
  match nodes[value]?.map Node.content with
  | some (.mapping _) => .ok [value]
  | some (.sequence items) => .ok items
  | _ => .error .invalidMerge

/-- Fails unless a node is a mapping. -/
def requireMapping (id : NodeId) : MakingM Unit := do
  match (← nodesNow)[id]?.map Node.content with
  | some (.mapping _) => return ()
  | _ => throw .invalidMerge

/-- The nodes with the default keys among the given entries made plain texts. -/
def withPlainKeys (nodes : Nodes) (entries : List (NodeId × NodeId)) : Nodes :=
  entries.foldl
    (fun nodes entry =>
      if nodes.tag entry.1 == Tag.value.fullName then nodes.withTag entry.1 Tag.str.fullName else nodes)
    nodes

mutual

/-- Puts the entries under the merge keys of a mapping in front of its own. Each nested step takes a merge
key away, so `fuel` need not exceed their number. -/
def flatten (fuel : Nat) (id : NodeId) : MakingM Unit := do
  let nodes ← nodesNow
  match fuel, takeMerge? nodes (nodes.entries id) with
  | fuel + 1, some (value, others) => do
    modify fun making => { making with nodes := making.nodes.withContent id (.mapping others) }
    let sources ← sourcesOf nodes value
    let merged ← mergedEntries fuel sources
    flatten fuel id
    modify fun making =>
      { making with nodes := making.nodes.withContent id (.mapping (merged ++ making.nodes.entries id)) }
  | _, _ =>
    modify fun making => { making with nodes := withPlainKeys making.nodes (making.nodes.entries id) }

/-- The entries of mappings that are merged, those of the last mapping first. -/
def mergedEntries (fuel : Nat) : List NodeId → MakingM (List (NodeId × NodeId))
  | [] => return []
  | source :: rest => do
    requireMapping source
    flatten fuel source
    let entries := (← nodesNow).entries source
    let others ← mergedEntries fuel rest
    return others ++ entries

end

/-! ### Scalars -/

/-- The text of a scalar. A mapping stands for the value of its default key. A node has at most `fuel`
nodes inside each other. -/
def textOf (nodes : Nodes) : (fuel : Nat) → NodeId → Except Fault String
  | 0, _ => .error (.noValue .endless)
  | fuel + 1, id =>
    match nodes[id]?.map Node.content with
    | some (.scalar text) => .ok text
    | some (.mapping entries) =>
      match entries.find? fun entry => nodes.tag entry.1 == Tag.value.fullName with
      | some (_, value) => textOf nodes fuel value
      | none => .error (.wrongKind (nodes.tag id))
    | _ => .error (.wrongKind (nodes.tag id))

/-- Whether a node is a scalar. -/
def isScalarNode (nodes : Nodes) (id : NodeId) : Bool :=
  match nodes[id]?.map Node.content with
  | some (.scalar _) => true
  | _ => false

/-- The value of a node with the tag of a scalar. A day or a point in time is never found in a mapping. -/
def scalarOf (nodes : Nodes) (id : NodeId) (tag : Tag) : Except Fault Scalar := do
  let text ← textOf nodes (nodes.size + 1) id
  if tag = .timestamp ∧ isScalarNode nodes id = false then throw (.noValue .timeOfCollection)
  (tag.value? text).getD (.error (.unknownTag tag.fullName))

/-! ### Nodes -/

/-- What a tag says about a node. -/
inductive Kind where
  /-- It is a value without parts. -/
  | scalar (tag : Tag)
  /-- It is a collection, given as long as it is empty. -/
  | collection (empty : Made)

/-- What a standard tag says about a node. The tags of keys with a meaning of their own say nothing. -/
def Tag.kind? : Tag → Option Kind
  | .seq => some (.collection (.list []))
  | .map => some (.collection (.map []))
  | .omap | .pairs => some (.collection (.pairs []))
  | .set => some (.collection (.set []))
  | .merge | .value | .yaml => none
  | tag => some (.scalar tag)

/-- What a full tag says about a node. -/
def kindOf (name : String) : Except Fault Kind :=
  match (Tag.ofFullName? name).bind Tag.kind? with
  | some kind => .ok kind
  | none => .error (.unknownTag name)

/-- Makes a node: a scalar has its value, a collection is empty and waits. -/
def make (id : NodeId) : MakingM Unit := do
  if (← madeOf? id).isSome then return ()
  let nodes ← nodesNow
  match ← kindOf (nodes.tag id) with
  | .collection empty =>
    remember id empty
    modify fun making => { making with waiting := making.waiting.push id }
  | .scalar tag =>
    let value ← scalarOf nodes id tag
    remember id (.scalar value)

/-- Makes the items of a sequence. -/
def makeItems : List NodeId → MakingM Unit
  | [] => return ()
  | item :: rest => do
    make item
    makeItems rest

/-- Makes a key, which must be a scalar. -/
def makeKey (id : NodeId) : MakingM Scalar := do
  make id
  match ← madeOf? id with
  | some (.scalar value) => return value
  | _ => throw .containerKey

/-- Makes the entries of a mapping. -/
def makeEntries : List (NodeId × NodeId) → MakingM (List (Scalar × NodeId))
  | [] => return []
  | (key, value) :: rest => do
    let scalar ← makeKey key
    make value
    let others ← makeEntries rest
    return (scalar, value) :: others

/-- The only entry of a mapping. -/
def singleEntry (nodes : Nodes) (id : NodeId) : Except Fault (NodeId × NodeId) :=
  match nodes[id]?.map Node.content with
  | some (.mapping [entry]) => .ok entry
  | _ => .error .invalidEntry

/-- Makes the entries that are the items of a list: each is a mapping of one key. -/
def makePairs : List NodeId → MakingM (List (NodeId × NodeId))
  | [] => return []
  | item :: rest => do
    let (key, value) ← singleEntry (← nodesNow) item
    make key
    make value
    let others ← makePairs rest
    return (key, value) :: others

/-- Makes the entries of a mapping with those under its merge keys. -/
def makeMapping (id : NodeId) : MakingM (List (Scalar × NodeId)) := do
  let nodes ← nodesNow
  match nodes[id]?.map Node.content with
  | some (.mapping _) => do
    flatten (← get).merges id
    makeEntries ((← nodesNow).entries id)
  | _ => throw (.wrongKind (nodes.tag id))

/-- The items of a sequence. -/
def itemsOf (nodes : Nodes) (id : NodeId) : Except Fault (List NodeId) :=
  match nodes[id]?.map Node.content with
  | some (.sequence items) => .ok items
  | _ => .error (.wrongKind (nodes.tag id))

/-- Fills a collection. -/
def fillOne (id : NodeId) : MakingM Unit := do
  match ← madeOf? id with
  | some (.list _) => do
    let items ← itemsOf (← nodesNow) id
    makeItems items
    remember id (.list items)
  | some (.map _) => do
    let entries ← makeMapping id
    remember id (.map entries)
  | some (.set _) => do
    let entries ← makeMapping id
    remember id (.set (OrderedMap.keys (Entries.ofList entries)))
  | some (.pairs _) => do
    let entries ← makePairs (← itemsOf (← nodesNow) id)
    remember id (.pairs entries)
  | _ => return ()

/-- Fills the collections that wait, from one on. Each node waits once, so there are at most `count`. -/
def fillFrom : (count : Nat) → (index : Nat) → MakingM Unit
  | 0, _ => return ()
  | count + 1, index => do
    match (← get).waiting[index]? with
    | none => return ()
    | some id => do
      fillOne id
      fillFrom count (index + 1)

/-! ### Trees -/

/-- The tree below a node. As many nodes as there are may be inside each other; where there are more, a
node is part of itself, and there is no tree. -/
def treeOf? (made : Array (Option Made)) : (fuel : Nat) → NodeId → Option Tree
  | 0, _ => none
  | fuel + 1, id =>
    match made[id]?.join with
    | none => some .null
    | some (.scalar value) => some (.scalar value)
    | some (.list items) => do
      let items ← items.mapM (treeOf? made fuel)
      return .list items
    | some (.map entries) => do
      let entries ← (Entries.ofList entries).mapM fun (key, value) => do
        return (key, ← treeOf? made fuel value)
      return .map entries
    | some (.pairs entries) => do
      let items ← entries.mapM fun (key, value) => do
        return Tree.pair (← treeOf? made fuel key) (← treeOf? made fuel value)
      return .list items
    | some (.set members) => some (.set members)

/-- A collection that is part of itself, or that has such a part: what is made of the nodes of its document, and its
own node. -/
structure Endless where
  made : Array (Option Made)
  root : NodeId
  /-- No tree is below the node. -/
  noTree : treeOf? made (made.size + 1) root = none

/-- What is read. -/
inductive Parsed where
  /-- A tree. -/
  | tree (tree : Tree)
  /-- A collection without a tree. -/
  | endless (collection : Endless)

/-- What is below a node. -/
def Parsed.ofNode (made : Array (Option Made)) (id : NodeId) : Parsed :=
  match found : treeOf? made (made.size + 1) id with
  | some whole => .tree whole
  | none => .endless ⟨made, id, found⟩

/-- The number of merge keys among the nodes of a document. -/
def mergeCount (nodes : Nodes) : Nat :=
  nodes.foldl
    (fun count node =>
      match node.content with
      | .mapping entries => count + entries.countP fun entry => isMergeKey nodes entry.1
      | _ => count)
    0

/-- What a document holds. -/
def Document.parsed (document : Document) : Except Fault Parsed := do
  let count := document.nodes.size
  let start : Making := ⟨document.nodes, mergeCount document.nodes, Array.replicate count none, #[]⟩
  let computation : MakingM Unit := do
    make document.root
    fillFrom count 0
  let (_, making) ← computation.run start
  return .ofNode making.made document.root

/-- The document of a text, absent when the text holds none. -/
def read (text : String) : Except Fault Parsed := do
  match ← Document.ofText? text with
  | none => return .tree .null
  | some document => document.parsed

end RouteCompiler.Yaml
