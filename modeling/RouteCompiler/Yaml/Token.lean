/-
**The tokens of a YAML text.**

* `Token`: what the structure of a text is told by;
* `Token.describe`: a token in a message.
-/

namespace RouteCompiler.Yaml

/-- A token of a YAML text. -/
inductive Token where
  /-- A directive that names the version of the format: its first number. -/
  | version (major : Nat)
  /-- A directive that declares the meaning of a tag handle. -/
  | handle (name meaning : String)
  /-- Any other directive. -/
  | directive
  /-- Three dashes, before a document. -/
  | documentStart
  /-- Three points, after a document. -/
  | documentEnd
  /-- The text is over. -/
  | streamEnd
  /-- A sequence starts that is told by its indentation. -/
  | blockSequenceStart
  /-- A mapping starts that is told by its indentation. -/
  | blockMappingStart
  /-- The collection that was told by its indentation is over. -/
  | blockEnd
  /-- An opening bracket. -/
  | sequenceStart
  /-- A closing bracket. -/
  | sequenceEnd
  /-- An opening brace. -/
  | mappingStart
  /-- A closing brace. -/
  | mappingEnd
  /-- A dash before an entry of a sequence. -/
  | blockEntry
  /-- A comma. -/
  | comma
  /-- A key follows. -/
  | key
  /-- A value follows. -/
  | value
  /-- A name that stands for an earlier node. -/
  | reference (name : String)
  /-- A name for the node that follows. -/
  | anchor (name : String)
  /-- A tag of the node that follows: a handle, if it has one, and the rest. -/
  | tag (handle : Option String) (suffix : String)
  /-- A scalar, and whether it is written without quotes. -/
  | scalar (text : String) (isPlain : Bool)
  deriving DecidableEq, Repr, Inhabited

/-- A token in a message. -/
def Token.describe : Token → String
  | .version _ => "<directive>"
  | .handle .. => "<directive>"
  | .directive => "<directive>"
  | .documentStart => "<document start>"
  | .documentEnd => "<document end>"
  | .streamEnd => "<stream end>"
  | .blockSequenceStart => "<block sequence start>"
  | .blockMappingStart => "<block mapping start>"
  | .blockEnd => "<block end>"
  | .sequenceStart => "'['"
  | .sequenceEnd => "']'"
  | .mappingStart => "'\x7b'"
  | .mappingEnd => "'\x7d'"
  | .blockEntry => "'-'"
  | .comma => "','"
  | .key => "'?'"
  | .value => "':'"
  | .reference _ => "<alias>"
  | .anchor _ => "<anchor>"
  | .tag .. => "<tag>"
  | .scalar .. => "<scalar>"

end RouteCompiler.Yaml
