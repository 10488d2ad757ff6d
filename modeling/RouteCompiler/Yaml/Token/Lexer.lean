/-
**From characters to tokens.**

The tokens of a text are found from left to right. Where a scalar or a bracket starts, a key may start,
but that is known only when a colon follows; the place is remembered, and a token for the key is put
there afterwards. Outside brackets and braces the column of a token opens and closes collections. Tokens
are found only when they are asked for, so of two faults the one that is met first counts, be it in the
characters or in the structure of the text.

* `PossibleKey`: where a key may have started;
* `Lexer`: the tokens found so far and what decides about the next one;
* `Lexer.fetch`: the lexer after one more token;
* `Lexer.fill`: the lexer when the next token is known;
* `Lexer.ofText`: the lexer at the start of a text.
-/

import RouteCompiler.OrderedMap
import RouteCompiler.Yaml.Token.Block
import RouteCompiler.Yaml.Token.Plain
import RouteCompiler.Yaml.Token.Quoted
import RouteCompiler.Yaml.Token.Tag

namespace RouteCompiler.Yaml

/-! ### State -/

/-- A place where a key may have started: the number of tokens before it, whether a colon must follow,
and the place itself. -/
structure PossibleKey where
  before : Nat
  isRequired : Bool
  mark : Mark
  deriving Repr, Inhabited

/-- The tokens found so far and what decides about the next one. -/
structure Lexer where
  /-- The text that is left. -/
  rest : List Mark
  /-- How many tokens the text has at most. -/
  limit : Nat
  /-- The tokens found so far. -/
  tokens : Array Token
  /-- How many of them are taken. -/
  taken : Nat
  /-- Whether the end of the text is found. -/
  isDone : Bool
  /-- How many brackets and braces are open. -/
  depth : Nat
  /-- The column of the innermost collection that is told by its indentation. -/
  indent : Int
  /-- The columns of the collections around it. -/
  outer : List Int
  /-- Whether a key may start here. -/
  allowsKey : Bool
  /-- The places where keys may have started, by the number of open brackets and braces. -/
  keys : List (Nat × PossibleKey)

/-- A step of the lexer. -/
abbrev Step := Except Fault Lexer

namespace Lexer

/-- The start of a text. A byte order mark is no part of it. -/
def start (rest : List Mark) : Lexer where
  rest := if nextChar rest = byteOrderMark then rest.drop 1 else rest
  limit := rest.length + 1
  tokens := #[]
  taken := 0
  isDone := false
  depth := 0
  indent := -1
  outer := []
  allowsKey := true
  keys := []

/-- The next character with its place. -/
def mark (lexer : Lexer) : Mark :=
  lexer.rest.head?.getD ⟨endChar, 0, 0, 0⟩

/-- Whether brackets or braces are open. -/
def inFlow (lexer : Lexer) : Bool :=
  lexer.depth != 0

/-- The lexer with a token and the text after it. -/
def push (lexer : Lexer) (token : Token) (rest : List Mark) : Lexer :=
  { lexer with tokens := lexer.tokens.push token, rest }

/-- The lexer with a token put at a place among those found before. -/
def pushAt (lexer : Lexer) (place : Nat) (token : Token) : Lexer :=
  { lexer with tokens := lexer.tokens.insertIdxIfInBounds place token }

/-! ### Possible keys -/

/-- The place where a key may have started, if there is one for the open brackets and braces. -/
def possibleKey? (lexer : Lexer) : Option PossibleKey :=
  OrderedMap.get? lexer.keys lexer.depth

/-- Forgets where a key may have started. -/
def forgetKey (lexer : Lexer) : Lexer :=
  { lexer with keys := lexer.keys.filter fun entry => entry.1 != lexer.depth }

/-- Gives up the place where a key may have started, unless a colon must follow. -/
def dropKey (lexer : Lexer) : Step :=
  match lexer.possibleKey? with
  | some key => if key.isRequired then .error .missingColon else .ok lexer.forgetKey
  | none => .ok lexer

/-- Whether a possible key is too far back: on another line or more than 1024 characters away. -/
def isStale (lexer : Lexer) (key : PossibleKey) : Bool :=
  key.mark.line != lexer.mark.line || decide (lexer.mark.offset - key.mark.offset > 1024)

/-- Gives up the possible keys that are too far back, unless a colon must follow one. -/
def dropStaleKeys (lexer : Lexer) : Step :=
  if lexer.keys.any fun entry => entry.2.isRequired && lexer.isStale entry.2 then .error .missingColon
  else .ok { lexer with keys := lexer.keys.filter fun entry => !lexer.isStale entry.2 }

/-- Remembers that a key may start here. A colon must follow if it starts in the column of the
collection. -/
def saveKey (lexer : Lexer) : Step :=
  if lexer.allowsKey then do
    let lexer ← lexer.dropKey
    let isRequired := !lexer.inFlow && decide (lexer.indent = lexer.mark.column)
    return { lexer with
      keys := OrderedMap.insert lexer.keys lexer.depth ⟨lexer.tokens.size, isRequired, lexer.mark⟩ }
  else .ok lexer

/-! ### Indentation -/

/-- The columns of the collections that go on in a column, and the number of those that end. -/
def unwound (column : Int) : (ended : Nat) → Int → List Int → Int × List Int × Nat
  | ended, indent, [] => (indent, [], ended)
  | ended, indent, outer :: rest =>
    if column < indent then unwound column (ended + 1) outer rest else (indent, outer :: rest, ended)

/-- Ends the collections that are indented further than a column. -/
def unwind (lexer : Lexer) (column : Int) : Lexer :=
  if lexer.inFlow then lexer
  else
    let (indent, outer, ended) := unwound column 0 lexer.indent lexer.outer
    { lexer with indent, outer, tokens := lexer.tokens ++ Array.replicate ended Token.blockEnd }

/-- Whether a collection starts in a column. -/
def opensAt (lexer : Lexer) (column : Nat) : Bool :=
  !lexer.inFlow && decide (lexer.indent < column)

/-- The lexer inside a collection that starts in a column. -/
def indented (lexer : Lexer) (column : Nat) : Lexer :=
  { lexer with indent := column, outer := lexer.indent :: lexer.outer }

/-- Starts a collection in the column of the next character, if it is indented further. -/
def openBlock (lexer : Lexer) (token : Token) : Lexer :=
  if lexer.opensAt lexer.mark.column then
    { lexer.indented lexer.mark.column with tokens := lexer.tokens.push token }
  else lexer

/-! ### White space -/

/-- The text after spaces, comments and line breaks, and whether there was a line break. -/
def skipSpace : (broken inComment : Bool) → List Mark → Bool × List Mark
  | broken, _, [] => (broken, [])
  | broken, inComment, mark :: rest =>
    if isBreak mark.char then skipSpace true false rest
    else if isEnd mark.char then (broken, mark :: rest)
    else if inComment then skipSpace broken true rest
    else if mark.char = ' ' then skipSpace broken false rest
    else if mark.char = '#' then skipSpace broken true rest
    else (broken, mark :: rest)

/-- The lexer before the next token. After a line break outside brackets and braces a key may start. -/
def skipToToken (lexer : Lexer) : Lexer :=
  let (broken, rest) := skipSpace false false lexer.rest
  { lexer with rest, allowsKey := lexer.allowsKey || (broken && !lexer.inFlow) }

/-! ### Directives and edges of documents -/

/-- The lexer at the edge of a document: all collections end and no key may start. -/
def atBoundary (lexer : Lexer) : Step := do
  let lexer ← (lexer.unwind (-1)).dropKey
  return { lexer with allowsKey := false }

/-- The lexer after a directive. -/
def directive (lexer : Lexer) : Step := do
  let lexer ← lexer.atBoundary
  let (token, rest) ← directiveToken (lexer.rest.drop 1)
  return lexer.push token rest

/-- The lexer after the edge of a document. -/
def edge (lexer : Lexer) (token : Token) : Step := do
  let lexer ← lexer.atBoundary
  return lexer.push token (lexer.rest.drop 3)

/-! ### Collections -/

/-- The lexer after an opening bracket or brace, which may start a key. -/
def opening (lexer : Lexer) (token : Token) : Step := do
  let lexer ← lexer.saveKey
  return { lexer.push token (lexer.rest.drop 1) with depth := lexer.depth + 1, allowsKey := true }

/-- The lexer after a closing bracket or brace. There must be an open one. -/
def closing (lexer : Lexer) (token : Token) : Step := do
  let lexer ← lexer.dropKey
  match lexer.depth with
  | 0 => throw (.expected ("a node before " ++ token.describe))
  | depth + 1 => return { lexer.push token (lexer.rest.drop 1) with depth, allowsKey := false }

/-- The lexer after a comma. -/
def comma (lexer : Lexer) : Step := do
  let lexer ← { lexer with allowsKey := true }.dropKey
  return lexer.push .comma (lexer.rest.drop 1)

/-- The lexer after the dash of an entry, which may start a sequence. -/
def blockEntry (lexer : Lexer) : Step := do
  if !lexer.inFlow && !lexer.allowsKey then throw .misplacedEntry
  let lexer ← { lexer.openBlock .blockSequenceStart with allowsKey := true }.dropKey
  return lexer.push .blockEntry (lexer.rest.drop 1)

/-- The lexer after the question mark of a key, which may start a mapping. -/
def explicitKey (lexer : Lexer) : Step := do
  if !lexer.inFlow && !lexer.allowsKey then throw .misplacedKey
  let lexer ← { lexer.openBlock .blockMappingStart with allowsKey := !lexer.inFlow }.dropKey
  return lexer.push .key (lexer.rest.drop 1)

/-- The lexer with the token of a key put where the key started, which may start a mapping. -/
def insertKey (lexer : Lexer) (key : PossibleKey) : Lexer :=
  let opens := lexer.opensAt key.mark.column
  let lexer := lexer.forgetKey.pushAt key.before .key
  let lexer :=
    if opens then (lexer.indented key.mark.column).pushAt key.before .blockMappingStart else lexer
  { lexer with allowsKey := false }

/-- The lexer after a colon, which ends a key or starts a value without one. -/
def value (lexer : Lexer) : Step := do
  match lexer.possibleKey? with
  | some key =>
    let lexer := lexer.insertKey key
    return lexer.push .value (lexer.rest.drop 1)
  | none =>
    if !lexer.inFlow && !lexer.allowsKey then throw .misplacedValue
    let lexer ← { lexer.openBlock .blockMappingStart with allowsKey := !lexer.inFlow }.dropKey
    return lexer.push .value (lexer.rest.drop 1)

/-! ### Scalars, names and tags -/

/-- The lexer where a scalar, a name or a tag starts, which may be a key. -/
def atNode (lexer : Lexer) : Step := do
  let lexer ← lexer.saveKey
  return { lexer with allowsKey := false }

/-- The characters that may follow a name. -/
def afterName (c : Char) : Bool :=
  isSeparator c || ['?', ':', ',', ']', '\x7d', '%', '@', '\x60'].contains c

/-- The lexer after the name of an anchor or of a reference to one. -/
def name (lexer : Lexer) (token : String → Token) : Step := do
  let lexer ← lexer.atNode
  let start := lexer.rest.drop 1
  let chars := takeChars isNameChar start
  let rest := dropChars isNameChar start
  if chars.isEmpty || !afterName (nextChar rest) then throw .invalidName
  return lexer.push (token (String.ofList chars)) rest

/-- The lexer after a tag. -/
def tag (lexer : Lexer) : Step := do
  let lexer ← lexer.atNode
  let (token, rest) ← tagToken (lexer.rest.drop 1)
  if !isSpaceOrLineEnd (nextChar rest) then throw .invalidTag
  return lexer.push token rest

/-- The lexer after a block scalar. -/
def block (lexer : Lexer) (folded : Bool) : Step := do
  let lexer ← { lexer with allowsKey := true }.dropKey
  let (text, rest) ← blockScalar folded lexer.indent (lexer.rest.drop 1)
  return lexer.push (.scalar text false) rest

/-- The lexer after a quoted scalar. -/
def quoted (lexer : Lexer) (quote : Char) : Step := do
  let lexer ← lexer.atNode
  let (text, rest) ← quotedScalar quote (lexer.rest.drop 1)
  return lexer.push (.scalar text false) rest

/-- The lexer after a plain scalar. After a line break a key may start. -/
def plain (lexer : Lexer) : Step := do
  let lexer ← lexer.atNode
  let scalar := plainScalar lexer.inFlow lexer.indent lexer.rest
  return { lexer.push (.scalar scalar.text true) scalar.rest with allowsKey := scalar.isBroken }

/-! ### Tokens -/

/-- Whether the next character is an indicator of block structure: a separator follows it, or brackets
or braces are open and `flow` allows it there. -/
def isIndicator (lexer : Lexer) (c : Char) (flow : Bool) : Bool :=
  nextChar lexer.rest == c && ((flow && lexer.inFlow) || isSeparator (charAt lexer.rest 1))

/-- The lexer after the next token, which is not the end of the text. -/
def token (lexer : Lexer) : Step :=
  let c := nextChar lexer.rest
  let atLineStart := lexer.mark.column == 0
  if atLineStart && c == '%' then lexer.directive
  else if atLineStart && startsEdge '-' lexer.rest then lexer.edge .documentStart
  else if atLineStart && startsEdge '.' lexer.rest then lexer.edge .documentEnd
  else if c = '[' then lexer.opening .sequenceStart
  else if c = '\x7b' then lexer.opening .mappingStart
  else if c = ']' then lexer.closing .sequenceEnd
  else if c = '\x7d' then lexer.closing .mappingEnd
  else if c = ',' then lexer.comma
  else if lexer.isIndicator '-' false then lexer.blockEntry
  else if lexer.isIndicator '?' true then lexer.explicitKey
  else if lexer.isIndicator ':' true then lexer.value
  else if c = '*' then lexer.name .reference
  else if c = '&' then lexer.name .anchor
  else if c = '!' then lexer.tag
  else if c = '|' ∧ lexer.inFlow = false then lexer.block false
  else if c = '>' ∧ lexer.inFlow = false then lexer.block true
  else if c = '\'' ∨ c = '"' then lexer.quoted c
  else if startsPlain lexer.inFlow lexer.rest then lexer.plain
  else .error (.unexpectedCharacter c)

/-- The lexer after the end of the text: all collections end. -/
def finish (lexer : Lexer) : Step := do
  let lexer ← (lexer.unwind (-1)).dropKey
  return { lexer with tokens := lexer.tokens.push .streamEnd, isDone := true }

/-- The lexer before the next token, with the collections ended that are indented further. -/
def settle (lexer : Lexer) : Step := do
  let lexer ← lexer.skipToToken.dropStaleKeys
  return lexer.unwind lexer.mark.column

/-- The lexer after one more token. -/
def fetch (lexer : Lexer) : Step := do
  let lexer ← lexer.settle
  if isEnd (nextChar lexer.rest) then lexer.finish else lexer.token

/-! ### Taking tokens -/

/-- The first place where a key may have started, as the number of tokens before it. -/
def firstKey? (lexer : Lexer) : Option Nat :=
  (lexer.keys.map fun entry => entry.2.before).min?

/-- The lexer when the next token is known: there is one, and no key may start before it. In each of
`steps` steps one more token is found. -/
def fillIn : (steps : Nat) → Lexer → Step
  | 0, lexer => .ok lexer
  | steps + 1, lexer =>
    if lexer.isDone then .ok lexer
    else if lexer.taken = lexer.tokens.size then do
      let lexer ← lexer.fetch
      fillIn steps lexer
    else do
      let lexer ← lexer.dropStaleKeys
      if lexer.firstKey? = some lexer.taken then
        let lexer ← lexer.fetch
        fillIn steps lexer
      else return lexer

/-- The lexer when the next token is known. -/
def fill (lexer : Lexer) : Step :=
  lexer.fillIn lexer.limit

/-- The next token, once it is known. -/
def next? (lexer : Lexer) : Option Token :=
  lexer.tokens[lexer.taken]?

/-- The lexer after the next token is taken. -/
def advance (lexer : Lexer) : Lexer :=
  { lexer with taken := lexer.taken + 1 }

/-- The lexer at the start of a text. -/
def ofText (text : String) : Step :=
  match firstForbidden? text.toList with
  | some c => .error (.unprintableCharacter c)
  | none => .ok (.start (marks text.toList))

end Lexer

end RouteCompiler.Yaml
