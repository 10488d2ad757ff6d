/-
**Documents as JSON text.**

A document is written with its entries in order, on one line or with one member to a line. Texts keep
their characters except for the quote, the backslash and the control characters below U+0020. A key
that is not a text is written as the text of its value. A value of another kind than those of JSON is
written as its text, but is no key. A document with such a key has no text, nor has one with a whole number
of too many digits.

* `Layout`: one line without spaces, or indented by a number of spaces;
* `write`: the text of a document under a layout;
* `fault?`: why a document has no text.
-/

import RouteCompiler.Tree.Display

namespace RouteCompiler.Json

/-- How members are laid out. -/
inductive Layout where
  /-- Everything on one line without spaces. -/
  | compact
  /-- One member to a line, each level indented by `width` more spaces. -/
  | indented (width : Nat)
  deriving DecidableEq, Repr

/-! ### Scalars -/

/-- One character inside a quoted text. -/
def escapeChar (c : Char) : List Char :=
  if c = '"' then ['\\', '"']
  else if c = '\\' then ['\\', '\\']
  else if c = '\n' then ['\\', 'n']
  else if c = '\r' then ['\\', 'r']
  else if c = '\t' then ['\\', 't']
  else if c = '\x08' then ['\\', 'b']
  else if c = '\x0c' then ['\\', 'f']
  else if c.toNat < 0x20 then '\\' :: 'u' :: Text.hex 4 c.toNat
  else [c]

/-- A text between quotes. -/
def quote (text : String) : String :=
  String.ofList ('"' :: (text.toList.flatMap escapeChar ++ ['"']))

/-- The text that a scalar other than a text is written as. -/
def scalarText : Scalar → String
  | .null => "null"
  | .bool true => "true"
  | .bool false => "false"
  | .int value => toString value
  | .float value => value.text Binary64.documentSpelling
  | .str text => text
  | .stamp moment => moment.text
  | .bytes content => Text.quotedBytes content

/-- A scalar as a member. -/
def writeScalar : Scalar → String
  | .str text => quote text
  | .stamp moment => quote moment.text
  | .bytes content => quote (Text.quotedBytes content)
  | value => scalarText value

/-- A scalar as a key. -/
def writeKey (key : Scalar) : String :=
  quote (scalarText key)

/-! ### Containers -/

/-- The text between a key and its value. -/
def Layout.colon : Layout → String
  | .compact => ":"
  | .indented _ => ": "

/-- A line break with the indentation of a level. -/
def Layout.newline (layout : Layout) (level : Nat) : String :=
  match layout with
  | .compact => ""
  | .indented width => String.ofList ('\n' :: List.replicate (width * level) ' ')

/-- Members between two brackets, those of a container at the given level. -/
def enclose (layout : Layout) (level : Nat) (opening closing : String) (members : List String) : String :=
  if members.isEmpty then opening ++ closing
  else
    opening ++ layout.newline (level + 1) ++
      ("," ++ layout.newline (level + 1)).intercalate members ++ layout.newline level ++ closing

mutual

/-- A document at a level of nesting. -/
def writeAt (layout : Layout) (level : Nat) : Tree → String
  | .scalar value => writeScalar value
  | .list items => enclose layout level "[" "]" (writeItems layout (level + 1) items)
  | .map entries => enclose layout level "\x7b" "\x7d" (writeEntries layout (level + 1) entries)
  | .pair key value =>
    enclose layout level "[" "]" [writeAt layout (level + 1) key, writeAt layout (level + 1) value]
  | .set members => quote (Tree.set members).literal

/-- The items of a list. -/
def writeItems (layout : Layout) (level : Nat) : List Tree → List String
  | [] => []
  | item :: rest => writeAt layout level item :: writeItems layout level rest

/-- The entries of a map. -/
def writeEntries (layout : Layout) (level : Nat) : List (Scalar × Tree) → List String
  | [] => []
  | (key, value) :: rest =>
    (writeKey key ++ layout.colon ++ writeAt layout level value) :: writeEntries layout level rest

end

/-- The text of a document. -/
def write (layout : Layout) (tree : Tree) : String :=
  writeAt layout 0 tree

/-! ### What has a text -/

/-- Why a document has no text. -/
inductive WriteFault where
  /-- A key is of a kind that JSON does not know. -/
  | unwritableKey
  /-- A whole number has too many digits. -/
  | numberTooLong
  deriving DecidableEq, Repr

/-- What is said of a document without a text. -/
def WriteFault.text : WriteFault → String
  | .unwritableKey => "keys must be texts, numbers, truth values or absent"
  | .numberTooLong => "a whole number has too many digits to be written"

/-- Why a scalar has no text. -/
def scalarFault? (value : Scalar) : Option WriteFault :=
  if value.isSpellable then none else some .numberTooLong

/-- Why a scalar is no key. -/
def keyFault? : Scalar → Option WriteFault
  | .stamp _ => some .unwritableKey
  | .bytes _ => some .unwritableKey
  | value => scalarFault? value

mutual

/-- Why a document has no text: the first cause from its start. -/
def fault? : Tree → Option WriteFault
  | .scalar value => scalarFault? value
  | .list items => faultItems? items
  | .map entries => faultEntries? entries
  | .pair key value => (fault? key).or (fault? value)
  | .set members => members.findSome? scalarFault?

/-- Why the items of a list have no text. -/
def faultItems? : List Tree → Option WriteFault
  | [] => none
  | item :: rest => (fault? item).or (faultItems? rest)

/-- Why the entries of a map have no text. -/
def faultEntries? : List (Scalar × Tree) → Option WriteFault
  | [] => none
  | (key, value) :: rest => (keyFault? key).or ((fault? value).or (faultEntries? rest))

end

end RouteCompiler.Json
