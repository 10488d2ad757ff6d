/-
**From tokens to nodes.**

A document is one node. A node may be named, and a later reference to the name stands for the same node
again; a name is not used for two nodes of a document. Where a key, a value or an entry is left out, an
absent node stands.

* `Composer`: the tokens that are left, the nodes so far and the named ones;
* `composeNode`: a node;
* `Document.ofText?`: the nodes of a document, if there is a document.
-/

import RouteCompiler.Yaml.Node
import RouteCompiler.Yaml.Tag
import RouteCompiler.Yaml.Token.Lexer

namespace RouteCompiler.Yaml

/-- The tokens that are left, the nodes found so far, the named ones among them, the meanings of tag handles,
and how many collections are open. -/
structure Composer where
  lexer : Lexer
  nodes : Nodes
  anchors : List (String × NodeId)
  handles : List (String × String)
  depth : Nat

/-- A computation that takes tokens. -/
abbrev Composing := StateT Composer (Except Fault)

namespace Composer

/-! ### Tokens -/

/-- The next token. -/
def peek : Composing (Option Token) := fun ⟨lexer, nodes, anchors, handles, depth⟩ => do
  let lexer ← lexer.fill
  return (lexer.next?, ⟨lexer, nodes, anchors, handles, depth⟩)

/-- Takes the next token. -/
def advance : Composing Unit :=
  modify fun composer => { composer with lexer := composer.lexer.advance }

/-- Whether the next token is one of the given ones. -/
def nextIsOneOf (tokens : List Token) : Composing Bool := do
  return (← peek).any tokens.contains

/-- Takes the next token if it is the given one, and tells whether it is. -/
def take (token : Token) : Composing Bool := do
  if (← peek) = some token then
    advance
    return true
  else return false

/-- Takes the next token, which must be the given one. -/
def require (token : Token) : Composing Unit := do
  if !(← take token) then throw (.expected token.describe)

/-! ### Names and tags -/

/-- What stands before a node: its name and its tag. -/
structure Properties where
  anchor : Option String
  tag : Option (Option String × String)

/-- Whether nothing stands before a node. -/
def Properties.isBare (properties : Properties) : Bool :=
  properties.anchor.isNone && properties.tag.isNone

/-- Takes a name if one is next. -/
def takeAnchor : Composing (Option String) := do
  match ← peek with
  | some (.anchor name) => advance; return some name
  | _ => return none

/-- Takes a tag if one is next. -/
def takeTag : Composing (Option (Option String × String)) := do
  match ← peek with
  | some (.tag handle suffix) => advance; return some (handle, suffix)
  | _ => return none

/-- Takes the name and the tag of a node, in either order. -/
def properties : Composing Properties := do
  match ← takeAnchor with
  | some name => return ⟨some name, ← takeTag⟩
  | none =>
    match ← takeTag with
    | some tag => return ⟨← takeAnchor, some tag⟩
    | none => return ⟨none, none⟩

/-- The full tag that a handle and the rest of a tag stand for. A lone exclamation mark says that there is
none. -/
def fullTag : Option (Option String × String) → Composing (Option String)
  | none => return none
  | some (none, suffix) => return some suffix
  | some (some handle, suffix) => do
    match OrderedMap.get? (← get).handles handle with
    | some meaning => return some (meaning ++ suffix)
    | none => throw (.undefinedHandle handle)

/-! ### Nodes -/

/-- The named nodes with one more, if a name is given. The name must be new. -/
def declare (anchors : List (String × NodeId)) (anchor : Option String) (id : NodeId) :
    Except Fault (List (String × NodeId)) :=
  match anchor with
  | none => .ok anchors
  | some name =>
    if OrderedMap.contains anchors name then .error (.repeatedAnchor name)
    else .ok (OrderedMap.insert anchors name id)

/-- Adds a node, which has a name if one is given. -/
def add (anchor : Option String) (tag : String) (content : Content) : Composing NodeId :=
  fun ⟨lexer, nodes, anchors, handles, depth⟩ => do
    let anchors ← declare anchors anchor nodes.size
    return (nodes.size, ⟨lexer, nodes.push ⟨tag, content⟩, anchors, handles, depth⟩)

/-- Adds the node that stands where nothing is written. -/
def addAbsent : Composing NodeId :=
  add none Tag.null.fullName (.scalar "")

/-- The most collections that may be inside each other. YAML sets no such bound: it is where a reader with a stack of a
thousand calls was seen to give up, and a stack of another size has another bound. What is done with a document that
has been read is not bounded at all. -/
def depthLimit : Nat :=
  488

/-- Fills a collection with what is read inside it. -/
def fill (id : NodeId) (inside : Composing Content) : Composing NodeId := do
  let depth := (← get).depth
  if depthLimit ≤ depth then throw (.noValue .tooDeep)
  modify fun composer => { composer with depth := depth + 1 }
  let content ← inside
  modify fun composer =>
    { composer with nodes := composer.nodes.withContent id content, depth := depth }
  return id

/-- The node that a name stands for, which may still be without its content. -/
def lookUp (name : String) : Composing NodeId := do
  match OrderedMap.get? (← get).anchors name with
  | some id => return id
  | none => throw (.undefinedAlias name)

end Composer

open Composer

/-! ### Nodes -/

/-- Where a node stands, which decides what it may be. -/
inductive Position where
  /-- In a collection that is told by its indentation, or alone. -/
  | block
  /-- The value of such a mapping, which may be a sequence that is not indented further. -/
  | blockValue
  /-- Inside brackets or braces. -/
  | flow
  deriving DecidableEq

/-- The mark of a node without a tag of its own. -/
def noTag : String :=
  "!"

/-- A tag that is written, or another one. -/
def tagOr (tag : Option String) (otherwise : Tag) : String :=
  (tag.filter (· != noTag)).getD otherwise.fullName

/-- The tag of a scalar. Without quotes, or with a lone exclamation mark, the text tells it. -/
def scalarTag (tag : Option String) (text : String) (isPlain : Bool) : String :=
  tagOr tag (if (isPlain && tag.isNone) || tag == some noTag then tagOfText text else .str)

mutual

/-- A node, in at most `fuel` nested steps. -/
def composeNode (fuel : Nat) (position : Position) : Composing NodeId := do
  match fuel with
  | 0 => throw (.expected "a node")
  | fuel + 1 =>
    match ← peek with
    | some (.reference name) => do
      advance
      lookUp name
    | _ => do
      let properties ← properties
      let tag ← fullTag properties.tag
      composeContent fuel position properties.isBare properties.anchor tag

/-- A node whose name and tag are known. A bare node, which has neither, must be written. -/
def composeContent (fuel : Nat) (position : Position) (isBare : Bool) (anchor tag : Option String) :
    Composing NodeId := do
  match fuel with
  | 0 => throw (.expected "a node")
  | fuel + 1 =>
    let token ← peek
    match token, position with
    | some .blockEntry, .blockValue => do
      let id ← add anchor (tagOr tag .seq) (.sequence [])
      fill id (return .sequence (← composeIndentlessEntries fuel))
    | some (.scalar text isPlain), _ => do
      advance
      add anchor (scalarTag tag text isPlain) (.scalar text)
    | some .sequenceStart, _ => do
      let id ← add anchor (tagOr tag .seq) (.sequence [])
      advance
      fill id (return .sequence (← composeItems fuel true))
    | some .mappingStart, _ => do
      let id ← add anchor (tagOr tag .map) (.mapping [])
      advance
      fill id (return .mapping (← composeMembers fuel true))
    | some .blockSequenceStart, .block | some .blockSequenceStart, .blockValue => do
      let id ← add anchor (tagOr tag .seq) (.sequence [])
      advance
      fill id (return .sequence (← composeBlockEntries fuel))
    | some .blockMappingStart, .block | some .blockMappingStart, .blockValue => do
      let id ← add anchor (tagOr tag .map) (.mapping [])
      advance
      fill id (return .mapping (← composePairs fuel))
    | _, _ => do
      if isBare then throw (.expected "a node")
      add anchor (tagOr tag .null) (.scalar "")

/-- A node, or the absent one before a token that ends its place. -/
def composeOptional (fuel : Nat) (position : Position) (ends : List Token) : Composing NodeId := do
  match fuel with
  | 0 => throw (.expected "a node")
  | fuel + 1 => if ← nextIsOneOf ends then addAbsent else composeNode fuel position

/-- The entries of a sequence that is told by its indentation. -/
def composeBlockEntries (fuel : Nat) : Composing (List NodeId) := do
  match fuel with
  | 0 => throw (.expected "the end of a sequence")
  | fuel + 1 =>
    if ← take .blockEntry then
      let first ← composeOptional fuel .block [.blockEntry, .blockEnd]
      let rest ← composeBlockEntries fuel
      return first :: rest
    else
      require .blockEnd
      return []

/-- The entries of a sequence that is not indented further than the mapping around it. -/
def composeIndentlessEntries (fuel : Nat) : Composing (List NodeId) := do
  match fuel with
  | 0 => throw (.expected "the end of a sequence")
  | fuel + 1 =>
    if ← take .blockEntry then
      let first ← composeOptional fuel .block [.blockEntry, .key, .value, .blockEnd]
      let rest ← composeIndentlessEntries fuel
      return first :: rest
    else return []

/-- The entries of a mapping that is told by its indentation. -/
def composePairs (fuel : Nat) : Composing (List (NodeId × NodeId)) := do
  match fuel with
  | 0 => throw (.expected "the end of a mapping")
  | fuel + 1 =>
    if ← take .key then
      let key ← composeOptional fuel .blockValue [.key, .value, .blockEnd]
      let value ←
        if ← take .value then composeOptional fuel .blockValue [.key, .value, .blockEnd]
        else addAbsent
      let rest ← composePairs fuel
      return (key, value) :: rest
    else
      require .blockEnd
      return []

/-- The items between brackets. -/
def composeItems (fuel : Nat) (isFirst : Bool) : Composing (List NodeId) := do
  match fuel with
  | 0 => throw (.expected "',' or ']'")
  | fuel + 1 =>
    if ← take .sequenceEnd then return []
    if !isFirst then require .comma
    if ← take .sequenceEnd then return []
    let first ← composeItem fuel
    let rest ← composeItems fuel false
    return first :: rest

/-- One item between brackets. A key with a value is a mapping of its own. -/
def composeItem (fuel : Nat) : Composing NodeId := do
  match fuel with
  | 0 => throw (.expected "an item")
  | fuel + 1 =>
    if ← nextIsOneOf [.key] then
      let id ← add none Tag.map.fullName (.mapping [])
      advance
      fill id do
        let key ← composeOptional fuel .flow [.value, .comma, .sequenceEnd]
        let value ←
          if ← take .value then composeOptional fuel .flow [.comma, .sequenceEnd] else addAbsent
        return .mapping [(key, value)]
    else composeNode fuel .flow

/-- The entries between braces. -/
def composeMembers (fuel : Nat) (isFirst : Bool) : Composing (List (NodeId × NodeId)) := do
  match fuel with
  | 0 => throw (.expected "',' or a closing brace")
  | fuel + 1 =>
    if ← take .mappingEnd then return []
    if !isFirst then require .comma
    if ← take .mappingEnd then return []
    let first ← composeMember fuel
    let rest ← composeMembers fuel false
    return first :: rest

/-- One entry between braces. A node alone is a key with an absent value. -/
def composeMember (fuel : Nat) : Composing (NodeId × NodeId) := do
  match fuel with
  | 0 => throw (.expected "an entry")
  | fuel + 1 =>
    if ← take .key then
      let key ← composeOptional fuel .flow [.value, .comma, .mappingEnd]
      let value ←
        if ← take .value then composeOptional fuel .flow [.comma, .mappingEnd] else addAbsent
      return (key, value)
    else
      let key ← composeNode fuel .flow
      return (key, ← addAbsent)

end

/-! ### Documents -/

/-- The handles that need no declaration. -/
def defaultHandles : List (String × String) :=
  [("!", "!"), ("!!", standardTag "")]

/-- Takes the directives before a document. The version and the meaning of a handle are declared once, and
the first number of the version is one. -/
def takeDirectives (fuel : Nat) (hasVersion : Bool) (declared : List (String × String)) :
    Composing (List (String × String)) := do
  match fuel with
  | 0 => return declared
  | fuel + 1 =>
    match ← peek with
    | some .directive => do
      advance
      takeDirectives fuel hasVersion declared
    | some (.version major) => do
      if hasVersion || major != 1 then throw .invalidDirective
      advance
      takeDirectives fuel true declared
    | some (.handle name meaning) => do
      if OrderedMap.contains declared name then throw .invalidDirective
      advance
      takeDirectives fuel hasVersion (declared ++ [(name, meaning)])
    | _ => return declared

/-- Takes the marks of the end of a document. -/
def takeDocumentEnds (fuel : Nat) : Composing Unit := do
  match fuel with
  | 0 => return ()
  | fuel + 1 => if ← take .documentEnd then takeDocumentEnds fuel else return ()

/-- Whether the next token is a directive. -/
def nextIsDirective : Composing Bool := do
  match ← peek with
  | some .directive => return true
  | some (.version _) => return true
  | some (.handle ..) => return true
  | _ => return false

/-- The node of a document, absent when it is marked but empty. -/
def composeDocument (fuel : Nat) : Composing NodeId := do
  if (← nextIsDirective) || (← nextIsOneOf [.documentStart]) then
    let declared ← takeDirectives fuel false []
    modify fun composer => { composer with handles := OrderedMap.merge defaultHandles declared }
    require .documentStart
    if (← nextIsDirective) || (← nextIsOneOf [.documentStart, .documentEnd, .streamEnd]) then addAbsent
    else composeNode fuel .block
  else composeNode fuel .block

/-- The node of the only document of a text, if there is one. -/
def composeText (fuel : Nat) : Composing (Option NodeId) := do
  if ← take .streamEnd then return none
  let node ← composeDocument fuel
  takeDocumentEnds fuel
  if ← take .streamEnd then return some node
  else
    let _ ← takeDirectives fuel false []
    require .documentStart
    throw .severalDocuments

/-- A document: its nodes and the one that holds the others. -/
structure Document where
  nodes : Nodes
  root : NodeId
  deriving Repr

/-- The document of a text, if there is one. A character gives at most four tokens, and every second nested
step takes a token. -/
def Document.ofText? (text : String) : Except Fault (Option Document) := do
  let lexer ← Lexer.ofText text
  let (root, composer) ← (composeText (16 * lexer.limit + 16)).run ⟨lexer, #[], [], defaultHandles, 0⟩
  return root.map fun root => ⟨composer.nodes, root⟩

end RouteCompiler.Yaml
