/-
**White space inside scalars.**

White space between two parts of a quoted or plain scalar is held back until the next part is known.
Blanks on one line are kept. A single line break becomes a space; of several the first is dropped and
the others are kept. Blanks around line breaks are dropped.

* `Gap`: the white space held back;
* `Gap.kept`: what is kept of it.
-/

import RouteCompiler.Yaml.Mark

namespace RouteCompiler.Yaml

/-- The white space after a part of a scalar, the last character first. -/
inductive Gap where
  /-- Blanks on one line. -/
  | blanks (chars : List Char)
  /-- A line break and more of them, with any blanks around them. -/
  | lines (first : Char) (more : List Char)
  /-- Line breaks after one that is escaped. -/
  | escaped (more : List Char)
  deriving Repr

namespace Gap

/-- No white space. -/
def none : Gap :=
  .blanks []

/-- Whether there is no white space. -/
def isNone : Gap → Bool
  | .blanks chars => chars.isEmpty
  | _ => false

/-- Whether there is a line break. -/
def isBroken : Gap → Bool
  | .blanks _ => false
  | _ => true

/-- White space with a blank after it. -/
def addBlank (gap : Gap) (c : Char) : Gap :=
  match gap with
  | .blanks chars => .blanks (c :: chars)
  | broken => broken

/-- White space with a line break after it. -/
def addBreak (gap : Gap) (c : Char) : Gap :=
  match gap with
  | .blanks _ => .lines c []
  | .lines first more => .lines first (c :: more)
  | .escaped more => .escaped (c :: more)

/-- What is kept of white space, the last character first. -/
def kept : Gap → List Char
  | .blanks chars => chars
  | .lines first more => if first ≠ '\n' then more ++ [first] else if more.isEmpty then [' '] else more
  | .escaped more => more

/-- The characters read so far, the last first, with what is kept of the white space after them. -/
def push (gap : Gap) (done : List Char) : List Char :=
  gap.kept ++ done

end Gap

end RouteCompiler.Yaml
