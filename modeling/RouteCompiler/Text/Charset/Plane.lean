/-
**Characters of two bytes.**

A plane gives two bytes a character. It is written in strips: the characters of one first byte whose second
bytes follow each other.

* `Strip`: a strip with its first byte and the second byte of its first character;
* `Plane.char?`: the character of two bytes;
* `Plane.Cluster`, `Plane.text?`: two bytes that spell several characters, and what two bytes spell.
-/

import RouteCompiler.Text.Surrogate

namespace RouteCompiler.Text

/-- Characters with one first byte. The second bytes count up from `second`. -/
structure Strip where
  first : Nat
  second : Nat
  chars : String
  deriving DecidableEq, Repr

/-- The character of two bytes in a strip. -/
def Strip.char? (strip : Strip) (first second : Nat) : Option Char :=
  if strip.first = first ∧ strip.second ≤ second then strip.chars.toList[second - strip.second]?
  else none

namespace Plane

/-- The character of two bytes. -/
def char? (strips : List Strip) (first second : Nat) : Option Char :=
  strips.findSome? fun strip => strip.char? first second

/-- Two bytes that spell several characters. -/
structure Cluster where
  first : Nat
  second : Nat
  text : String
  deriving DecidableEq, Repr

/-- What two bytes spell: a character, or several. -/
def text? (strips : List Strip) (clusters : List Cluster) (first second : Nat) : Option (List Char) :=
  ((char? strips first second).map fun c => [c]).or
    ((clusters.find? fun cluster => cluster.first == first && cluster.second == second).map fun cluster =>
      cluster.text.toList)

end Plane

end RouteCompiler.Text
