/-
**Characters written in two halves.**

A character beyond U+FFFF may be escaped as a pair of codes, the first from U+D800 on and the second from
U+DC00 on. Half of a pair on its own is no character, and a mark stands in its place.

* `isHighSurrogate`, `isLowSurrogate`: the two halves;
* `pairChar`: the character of a pair;
* `charOfCode`: the character of a code, or the mark.
-/

namespace RouteCompiler.Text

/-- The first half of a pair of codes for one character. -/
def isHighSurrogate (code : Nat) : Bool :=
  decide (0xD800 ≤ code) && decide (code ≤ 0xDBFF)

/-- The second half of a pair of codes for one character. -/
def isLowSurrogate (code : Nat) : Bool :=
  decide (0xDC00 ≤ code) && decide (code ≤ 0xDFFF)

/-- What stands for something that is no character. -/
def replacement : Char :=
  '\ufffd'

/-- The character of a code. Half of a pair on its own denotes none. -/
def charOfCode (code : Nat) : Char :=
  if isHighSurrogate code || isLowSurrogate code then replacement else Char.ofNat code

/-- The character of a pair of codes. -/
def pairChar (high low : Nat) : Char :=
  Char.ofNat (0x10000 + (high - 0xD800) * 0x400 + (low - 0xDC00))

end RouteCompiler.Text
