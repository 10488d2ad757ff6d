/-
**The nodes of a YAML document.**

A node may be used in several places, so a document is kept as an array of nodes in which a node names
others by their places. A node may even be part of itself.

* `Content`: the text of a scalar, the items of a sequence or the entries of a mapping;
* `Node`: a content with its tag;
* `Nodes`: the nodes of a document.
-/

namespace RouteCompiler.Yaml

/-- The place of a node among the nodes of a document. -/
abbrev NodeId := Nat

/-- What a node holds. -/
inductive Content where
  /-- The text of a scalar. -/
  | scalar (text : String)
  /-- Items in order. -/
  | sequence (items : List NodeId)
  /-- Entries of a key and a value, in order. -/
  | mapping (entries : List (NodeId × NodeId))
  deriving DecidableEq, Repr, Inhabited

/-- A node of a document: its full tag and what it holds. -/
structure Node where
  tag : String
  content : Content
  deriving DecidableEq, Repr, Inhabited

/-- The nodes of a document. -/
abbrev Nodes := Array Node

namespace Nodes

/-- The entries of a node, none if it is no mapping. -/
def entries (nodes : Nodes) (id : NodeId) : List (NodeId × NodeId) :=
  match nodes[id]?.map Node.content with
  | some (.mapping entries) => entries
  | _ => []

/-- The tag of a node. -/
def tag (nodes : Nodes) (id : NodeId) : String :=
  (nodes[id]?.map Node.tag).getD ""

/-- The nodes with another content for one. -/
def withContent (nodes : Nodes) (id : NodeId) (content : Content) : Nodes :=
  nodes.modify id fun node => { node with content }

/-- The nodes with another tag for one. -/
def withTag (nodes : Nodes) (id : NodeId) (tag : String) : Nodes :=
  nodes.modify id fun node => { node with tag }

end Nodes

end RouteCompiler.Yaml
