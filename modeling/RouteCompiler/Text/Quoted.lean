/-
**Quoted text in messages.**

A text quoted in a message stands between single quotes, or between double quotes when it holds a
single quote and no double one. Inside, the backslash, the quote in use and every character that a
reader would not see are escaped.

* `delimiter`: which quote is used;
* `escapeChar`: how one character is written;
* `quoted`: the whole;
* `quotedBytes`: the same for bytes.
-/

import RouteCompiler.Text.Hex
import RouteCompiler.Text.Printable

namespace RouteCompiler.Text

/-- The quote that a text is written in. -/
def delimiter (chars : List Char) : Char :=
  if '\'' ∈ chars ∧ '"' ∉ chars then '"' else '\''

/-- A hidden character is written by its code point in two, four or eight hexadecimal digits. -/
def escapeCode (code : Nat) : List Char :=
  if code < 0x100 then '\\' :: 'x' :: hex 2 code
  else if code < 0x10000 then '\\' :: 'u' :: hex 4 code
  else '\\' :: 'U' :: hex 8 code

/-- One character of a text quoted in `quote`. -/
def escapeChar (quote c : Char) : List Char :=
  if c = quote ∨ c = '\\' then ['\\', c]
  else if c = '\n' then ['\\', 'n']
  else if c = '\r' then ['\\', 'r']
  else if c = '\t' then ['\\', 't']
  else if isPrintable c then [c]
  else escapeCode c.toNat

/-- A text as a message quotes it. -/
def quoted (text : String) : String :=
  let quote := delimiter text.toList
  String.ofList (quote :: (text.toList.flatMap (escapeChar quote) ++ [quote]))

/-- One byte among those quoted in `quote`. Only the visible characters of ASCII stand for themselves. -/
def escapeByte (quote : Char) (byte : UInt8) : List Char :=
  if byte.toNat < 0x7F then escapeChar quote (Char.ofNat byte.toNat) else escapeCode byte.toNat

/-- Bytes as a message quotes them. -/
def quotedBytes (bytes : List UInt8) : String :=
  let quote := delimiter (bytes.map fun byte => Char.ofNat byte.toNat)
  String.ofList ('b' :: quote :: (bytes.flatMap (escapeByte quote) ++ [quote]))

end RouteCompiler.Text
