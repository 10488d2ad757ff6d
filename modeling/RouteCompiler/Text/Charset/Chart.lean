/-
**Charsets of single bytes.**

A code chart gives a byte a character, or none. It is written in rows of sixteen, those of the highest bytes;
the bytes before the first row are the characters with their codes. A mark in a row stands for no character.

* `Chart`: a chart with its names;
* `Chart.char?`: the character of a byte.
-/

import RouteCompiler.Text.Surrogate

namespace RouteCompiler.Text

/-- A code chart with its name and its other names. -/
structure Chart where
  name : String
  aliases : List String
  rows : List String
  deriving DecidableEq, Repr

namespace Chart

/-- The first byte of the first row. -/
def first (chart : Chart) : Nat :=
  256 - 16 * chart.rows.length

/-- The character of a byte. -/
def char? (chart : Chart) (byte : UInt8) : Option Char := do
  if byte.toNat < chart.first then return Char.ofNat byte.toNat
  let row ← chart.rows[(byte.toNat - chart.first) / 16]?
  let char ← row.toList[byte.toNat % 16]?
  if char = replacement then none else some char

end Chart

end RouteCompiler.Text
