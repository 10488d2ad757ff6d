/-
**Blank characters and trimming.**

Two notions of blank are in use. `isBlank` is the wide one that trims a document or an environment
value: the white space of Unicode and the four information separators U+001C to U+001F.
`isWhiteSpace` is the Unicode property alone; numbers written as text are trimmed with it.

* `trim`: a text without the characters of a class at its two ends.
-/

import RouteCompiler.Text.Ranges

namespace RouteCompiler.Text

/-! ### Classes -/

/-- The characters with the Unicode property White_Space. -/
def whiteSpaceRanges : List (Nat × Nat) :=
  [(0x9, 0xD), (0x20, 0x20), (0x85, 0x85), (0xA0, 0xA0), (0x1680, 0x1680), (0x2000, 0x200A),
    (0x2028, 0x2029), (0x202F, 0x202F), (0x205F, 0x205F), (0x3000, 0x3000)]

/-- The information separators, blank although the property leaves them out. -/
def separatorRanges : List (Nat × Nat) :=
  [(0x1C, 0x1F)]

/-- White space in the sense of the Unicode property. -/
def isWhiteSpace (c : Char) : Bool :=
  inRanges whiteSpaceRanges c

/-- White space or an information separator. -/
def isBlank (c : Char) : Bool :=
  isWhiteSpace c || inRanges separatorRanges c

/-! ### Trimming -/

/-- The characters of a text without those of a class at its two ends. -/
def trimmed (blank : Char → Bool) (chars : List Char) : List Char :=
  ((chars.dropWhile blank).reverse.dropWhile blank).reverse

/-- A text without the characters of a class at its two ends. -/
def trim (blank : Char → Bool) (text : String) : String :=
  String.ofList (trimmed blank text.toList)

/-- A text without blank characters at its two ends. -/
def strip (text : String) : String :=
  trim isBlank text

/-- Whether a text holds blank characters only. -/
def isAllBlank (text : String) : Bool :=
  text.toList.all isBlank

end RouteCompiler.Text
