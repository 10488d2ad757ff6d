/-
**Characters with their places.**

The tokens of a YAML text depend on the columns and lines that they stand in, so every character is
marked with its place first. All spellings of a line break but the two of Unicode become one, and the
end of the text is marked by a character that no text may hold.

* `Mark`: a character with its place;
* `marks`: the characters of a text with their places;
* `isBreak`, `isEnd`, `isSeparator`: the characters that end a line, the text and a word.
-/

import RouteCompiler.Text.Ranges
import RouteCompiler.Yaml.Fault

namespace RouteCompiler.Yaml

/-- A character with its place: its offset from the start of the text, its line and its column. -/
structure Mark where
  char : Char
  offset : Nat
  line : Nat
  column : Nat
  deriving Repr, Inhabited

/-- The character that stands for the end of a text. -/
def endChar : Char :=
  '\x00'

/-- The characters that a YAML text may hold. -/
def allowedRanges : List (Nat × Nat) :=
  [(0x9, 0xA), (0xD, 0xD), (0x20, 0x7E), (0x85, 0x85), (0xA0, 0xD7FF), (0xE000, 0xFFFD),
    (0x10000, 0x10FFFF)]

/-- The first character of a text that a YAML text may not hold. -/
def firstForbidden? (chars : List Char) : Option Char :=
  chars.find? fun c => !Text.inRanges allowedRanges c

/-! ### Classes -/

/-- Whether a character of a text ends a line. -/
def endsLine (c : Char) : Bool :=
  c == '\n' || c == '\r' || c == '\x85' || c == '\u2028' || c == '\u2029'

/-- A line break as it is kept: the two of Unicode as they are, all others alike. -/
def keptBreak (c : Char) : Char :=
  if c = '\u2028' ∨ c = '\u2029' then c else '\n'

/-- Whether a marked character is a line break. -/
def isBreak (c : Char) : Bool :=
  c == '\n' || c == '\u2028' || c == '\u2029'

/-- Whether a marked character is the end of the text. -/
def isEnd (c : Char) : Bool :=
  c == endChar

/-- Whether a marked character ends a line or the text. -/
def isLineEnd (c : Char) : Bool :=
  isBreak c || isEnd c

/-- Whether a marked character is a space or a tab. -/
def isBlank (c : Char) : Bool :=
  c == ' ' || c == '\t'

/-- Whether a marked character ends a word: a space, a tab, a line break or the end. -/
def isSeparator (c : Char) : Bool :=
  isBlank c || isLineEnd c

/-- Whether a marked character is a space, a line break or the end. -/
def isSpaceOrLineEnd (c : Char) : Bool :=
  c == ' ' || isLineEnd c

/-! ### Marking -/

/-- The byte order mark, which takes no column. -/
def byteOrderMark : Char :=
  '\ufeff'

/-- The characters of a text with their places, from a place on. -/
def marksFrom (offset line column : Nat) : List Char → List Mark
  | [] => [⟨endChar, offset, line, column⟩]
  | '\r' :: '\n' :: rest => ⟨'\n', offset, line, column⟩ :: marksFrom (offset + 2) (line + 1) 0 rest
  | c :: rest =>
    if endsLine c then ⟨keptBreak c, offset, line, column⟩ :: marksFrom (offset + 1) (line + 1) 0 rest
    else
      ⟨c, offset, line, column⟩ ::
        marksFrom (offset + 1) line (if c = byteOrderMark then column else column + 1) rest

/-- The characters of a text with their places. -/
def marks (chars : List Char) : List Mark :=
  marksFrom 0 0 0 chars

/-! ### Looking ahead -/

/-- The character at a distance, or the end. -/
def charAt (rest : List Mark) (distance : Nat) : Char :=
  ((rest[distance]?).map Mark.char).getD endChar

/-- The next character, or the end. -/
def nextChar (rest : List Mark) : Char :=
  charAt rest 0

/-- Whether three marks of one kind and then a separator come next, as they do between documents. -/
def startsEdge (c : Char) (rest : List Mark) : Bool :=
  charAt rest 0 == c && charAt rest 1 == c && charAt rest 2 == c && isSeparator (charAt rest 3)

/-- Whether the edge of a document comes next. -/
def atEdge (rest : List Mark) : Bool :=
  startsEdge '-' rest || startsEdge '.' rest

/-- The marks after those whose characters have a property. -/
def dropChars (property : Char → Bool) (rest : List Mark) : List Mark :=
  rest.dropWhile fun mark => property mark.char

/-- The characters before the first that lacks a property. -/
def takeChars (property : Char → Bool) (rest : List Mark) : List Char :=
  (rest.takeWhile fun mark => property mark.char).map Mark.char

end RouteCompiler.Yaml
