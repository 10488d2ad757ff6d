/-
**Values inside messages.**

A message shows a text as it is and every other value by its spelling. Inside a collection a text is
quoted.

* `Scalar.literal`, `Tree.literal`: the spelling of a value inside a collection;
* `Scalar.display`, `Tree.display`: the value itself in a message;
* `Tree.isSpellable`: whether a value has a spelling, which very long whole numbers have not.
-/

import RouteCompiler.Number.Shortest
import RouteCompiler.Text.Digits
import RouteCompiler.Text.Quoted
import RouteCompiler.Tree.Basic

namespace RouteCompiler

/-- The spelling of a scalar inside a collection. -/
def Scalar.literal : Scalar → String
  | .null => "None"
  | .bool true => "True"
  | .bool false => "False"
  | .int value => toString value
  | .float value => value.text Binary64.messageSpelling
  | .str text => Text.quoted text
  | .stamp moment => moment.literal
  | .bytes content => Text.quotedBytes content

/-- A scalar in a message: texts and stamps as they are, the others by their spelling. -/
def Scalar.display : Scalar → String
  | .str text => text
  | .stamp moment => moment.text
  | value => value.literal

/-- The spelling of a set. -/
def setLiteral (members : List String) : String :=
  if members.isEmpty then "set()" else "\x7b" ++ ", ".intercalate members ++ "\x7d"

namespace Tree

mutual

/-- The spelling of a tree inside a collection. -/
def literal : Tree → String
  | .scalar value => value.literal
  | .list items => "[" ++ ", ".intercalate (literalItems items) ++ "]"
  | .map entries => "\x7b" ++ ", ".intercalate (literalEntries entries) ++ "\x7d"
  | .pair key value => "(" ++ key.literal ++ ", " ++ value.literal ++ ")"
  | .set members => setLiteral (members.map Scalar.literal)

/-- The spellings of the items of a list. -/
def literalItems : List Tree → List String
  | [] => []
  | item :: rest => item.literal :: literalItems rest

/-- The spellings of the entries of a map. -/
def literalEntries : List (Scalar × Tree) → List String
  | [] => []
  | (key, value) :: rest => (key.literal ++ ": " ++ value.literal) :: literalEntries rest

end

/-- A tree in a message. -/
def display : Tree → String
  | .scalar value => value.display
  | tree => tree.literal

end Tree

/-! ### What can be spelled -/

/-- Whether a scalar can be spelled: it is no whole number of too many digits. -/
def Scalar.isSpellable : Scalar → Bool
  | .int value => !Text.isTooLong value
  | _ => true

namespace Tree

mutual

/-- Whether a tree can be spelled: no whole number in it has too many digits. -/
def isSpellable : Tree → Bool
  | .scalar value => value.isSpellable
  | .list items => areSpellable items
  | .map entries => areSpellableEntries entries
  | .pair key value => key.isSpellable && value.isSpellable
  | .set members => members.all Scalar.isSpellable

/-- Whether the items of a list can be spelled. -/
def areSpellable : List Tree → Bool
  | [] => true
  | item :: rest => item.isSpellable && areSpellable rest

/-- Whether the entries of a map can be spelled. -/
def areSpellableEntries : List (Scalar × Tree) → Bool
  | [] => true
  | (key, value) :: rest => key.isSpellable && value.isSpellable && areSpellableEntries rest

end

end Tree

end RouteCompiler
