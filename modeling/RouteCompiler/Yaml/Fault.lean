/-
**Why a text is not a YAML document.**

A text that breaks the rules of the format is no document. A text that keeps them may still hold a
scalar without a value, as a thirteenth month; that is another matter, which callers do not expect.

* `ValueFault`: why a part of a document has no value;
* `Fault`: the causes, from the characters of a text to the values of its nodes;
* `Fault.text`: what a failure says.
-/

namespace RouteCompiler.Yaml

/-- Why a part of a document has no value. -/
inductive ValueFault where
  /-- A number, a day or a point in time does not exist. -/
  | malformed (text : String)
  /-- A number has no characters. -/
  | empty
  /-- A word is no truth value. -/
  | unknownWord (text : String)
  /-- A text has not the form of a day or a point in time. -/
  | notATime (text : String)
  /-- A collection stands for a day or a point in time. -/
  | timeOfCollection
  /-- A digit of a fractional number stands at a place beyond the range of such numbers. -/
  | outOfRange
  /-- An escape stands for no character. -/
  | noSuchCharacter (code : Nat)
  /-- The way through a collection that is part of itself has no end. -/
  | endless
  /-- Too many collections are inside each other. -/
  | tooDeep
  deriving DecidableEq, Repr

/-- What is said of a part of a document without a value. -/
def ValueFault.text : ValueFault → String
  | .malformed text => "found no value in " ++ text
  | .empty => "found a number without digits"
  | .unknownWord text => "found no truth value in " ++ text
  | .notATime text => "found no point in time in " ++ text
  | .timeOfCollection => "expected a point in time, but found a collection"
  | .outOfRange => "found a number beyond the range of fractional numbers"
  | .noSuchCharacter code => "found no character with the code " ++ toString code
  | .endless => "found a collection that is part of itself"
  | .tooDeep => "found too many collections inside each other"

/-- Why a text is not a YAML document. -/
inductive Fault where
  /-- A character that no YAML text may hold. -/
  | unprintableCharacter (c : Char)
  /-- A key that must be followed by a colon is not. -/
  | missingColon
  /-- An entry of a sequence stands where none may. -/
  | misplacedEntry
  /-- A key of a mapping stands where none may. -/
  | misplacedKey
  /-- A value of a mapping stands where none may. -/
  | misplacedValue
  /-- No token starts with the character. -/
  | unexpectedCharacter (c : Char)
  /-- The text ends inside a quoted scalar. -/
  | unterminatedText
  /-- A line inside a quoted scalar reads as the edge of a document. -/
  | separatorInText
  /-- A backslash is followed by a character that is no escape. -/
  | unknownEscape (c : Char)
  /-- The first line of a block scalar holds more than indicators and a comment. -/
  | invalidHeader
  /-- The name of an anchor or alias is empty or runs into another character. -/
  | invalidName
  /-- A tag is not well formed. -/
  | invalidTag
  /-- A directive is not well formed. -/
  | invalidDirective
  /-- A token stands where another was expected. -/
  | expected (what : String)
  /-- An alias names no complete node before it. -/
  | undefinedAlias (name : String)
  /-- Two nodes have the same anchor. -/
  | repeatedAnchor (name : String)
  /-- The text holds a second document. -/
  | severalDocuments
  /-- A tag handle is not declared. -/
  | undefinedHandle (handle : String)
  /-- No value can be made of a node with the tag. -/
  | unknownTag (tag : String)
  /-- A node is of another kind than its tag says. -/
  | wrongKind (tag : String)
  /-- A collection is used as a key. -/
  | containerKey
  /-- A merge key does not have mappings for its value. -/
  | invalidMerge
  /-- An entry of an ordered map is no mapping of one key. -/
  | invalidEntry
  /-- A text does not spell bytes. -/
  | invalidBytes
  /-- A part of the document has no value. -/
  | noValue (fault : ValueFault)
  deriving DecidableEq, Repr

/-- What a failure says was wrong. -/
def Fault.text : Fault → String
  | .unprintableCharacter _ => "special characters are not allowed"
  | .missingColon => "could not find expected ':'"
  | .misplacedEntry => "sequence entries are not allowed here"
  | .misplacedKey => "mapping keys are not allowed here"
  | .misplacedValue => "mapping values are not allowed here"
  | .unexpectedCharacter c => "found character " ++ String.singleton c ++ " that cannot start any token"
  | .unterminatedText => "found unexpected end of stream in a quoted scalar"
  | .separatorInText => "found unexpected document separator in a quoted scalar"
  | .unknownEscape c => "found unknown escape character " ++ String.singleton c
  | .invalidHeader => "expected indicators, a comment or a line break after a block scalar indicator"
  | .invalidName => "expected the name of an anchor or alias"
  | .invalidTag => "expected a tag"
  | .invalidDirective => "expected a directive"
  | .expected what => "expected " ++ what
  | .undefinedAlias name => "found undefined alias " ++ name
  | .repeatedAnchor name => "found duplicate anchor " ++ name
  | .severalDocuments => "expected a single document in the stream"
  | .undefinedHandle handle => "found undefined tag handle " ++ handle
  | .unknownTag tag => "could not determine a constructor for the tag " ++ tag
  | .wrongKind tag => "found a node of another kind than " ++ tag
  | .containerKey => "found unhashable key"
  | .invalidMerge => "expected a mapping or list of mappings for merging"
  | .invalidEntry => "expected a mapping of length 1"
  | .invalidBytes => "failed to decode base64 data"
  | .noValue fault => fault.text

end RouteCompiler.Yaml
