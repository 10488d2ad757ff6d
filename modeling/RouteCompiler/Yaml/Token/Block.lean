/-
**Block scalars.**

A block scalar follows a bar or an angle bracket on lines of its own, which are indented by the same
number of columns. After a bar all line breaks are kept; after an angle bracket a single line break
between two lines that start with text becomes a space. A sign after the bar or bracket says what
becomes of the line breaks at the end, a digit how far the lines are indented.

* `Chomping`: what becomes of the line breaks at the end;
* `Header`: what the first line says;
* `blockFrom`: the lines of a scalar;
* `blockScalar`: a scalar after its bar or bracket.
-/

import RouteCompiler.Yaml.Mark

namespace RouteCompiler.Yaml

/-! ### The first line -/

/-- What becomes of the line breaks at the end of a block scalar. -/
inductive Chomping where
  /-- One is kept. -/
  | clip
  /-- None is kept. -/
  | strip
  /-- All are kept. -/
  | keep
  deriving DecidableEq, Repr

/-- What the first line of a block scalar says. -/
structure Header where
  chomping : Chomping
  /-- By how many columns more than the collection around it the scalar is indented. -/
  increment : Option Nat

/-- What a sign says about the line breaks at the end. -/
def chompingOf? (c : Char) : Option Chomping :=
  if c = '+' then some .keep else if c = '-' then some .strip else none

/-- The number of columns that a digit says. -/
def incrementOf? (c : Char) : Option Nat :=
  if '0' ≤ c ∧ c ≤ '9' then some (c.toNat - 48) else none

/-- A sign and a digit in either order, both optional. -/
def headerOf (rest : List Mark) : Header × List Mark :=
  match chompingOf? (nextChar rest), incrementOf? (nextChar rest) with
  | some chomping, _ =>
    match incrementOf? (charAt rest 1) with
    | some increment => (⟨chomping, some increment⟩, rest.drop 2)
    | none => (⟨chomping, none⟩, rest.drop 1)
  | none, some increment =>
    match chompingOf? (charAt rest 1) with
    | some chomping => (⟨chomping, some increment⟩, rest.drop 2)
    | none => (⟨.clip, some increment⟩, rest.drop 1)
  | none, none => (⟨.clip, none⟩, rest)

/-- The text after spaces, a comment and the end of the line, if nothing else is left of the line. -/
def afterComment? (rest : List Mark) : Option (List Mark) :=
  let rest := dropChars (· == ' ') rest
  let rest := if nextChar rest = '#' then dropChars (fun c => !isLineEnd c) rest else rest
  if isEnd (nextChar rest) then some rest
  else if isBreak (nextChar rest) then some (rest.drop 1)
  else none

/-- The first line of a block scalar and the text after it. -/
def blockHeader (rest : List Mark) : Except Fault (Header × List Mark) :=
  let (header, rest) := headerOf rest
  if header.increment = some 0 ∨ isSpaceOrLineEnd (nextChar rest) = false then .error .invalidHeader
  else
    match afterComment? rest with
    | some rest => .ok (header, rest)
    | none => .error .invalidHeader

/-! ### Indentation -/

/-- The line breaks before the first line of text, the last first, the greatest column of what is before
it, and the text from there on. -/
def leadingLines : (breaks : List Char) → (widest : Nat) → List Mark → List Char × Nat × List Mark
  | breaks, widest, [] => (breaks, widest, [])
  | breaks, widest, mark :: rest =>
    if mark.char = ' ' then leadingLines breaks (max widest (mark.column + 1)) rest
    else if isBreak mark.char then leadingLines (mark.char :: breaks) widest rest
    else (breaks, widest, mark :: rest)

/-! ### Lines -/

/-- What comes next in a block scalar. Line breaks are held back, the last first. -/
inductive BlockState where
  /-- The first line, after some line breaks. -/
  | start (breaks : List Char)
  /-- The rest of a line; whether the line starts with text. -/
  | line (startsWithText : Bool)
  /-- A line after the end of another one and further line breaks; whether that one starts with text. -/
  | after (lineBreak : Char) (breaks : List Char) (startsWithText : Bool)
  deriving Repr

/-- The line breaks between two lines of a scalar, the last first. -/
def between (folded : Bool) (lineBreak : Char) (breaks : List Char) (bothStartWithText : Bool) :
    List Char :=
  if folded && lineBreak == '\n' && bothStartWithText then
    if breaks.isEmpty then [' '] else breaks
  else breaks ++ [lineBreak]

/-- The line breaks at the end of a scalar, the last first. -/
def trailing (chomping : Chomping) : BlockState → List Char
  | .start breaks => if chomping = .keep then breaks else []
  | .line _ => []
  | .after lineBreak breaks _ =>
    match chomping with
    | .strip => []
    | .clip => [lineBreak]
    | .keep => breaks ++ [lineBreak]

/-- What comes next after a line break or a space of the indentation. -/
def BlockState.addBreak (state : BlockState) (c : Char) : BlockState :=
  match state with
  | .start breaks => .start (c :: breaks)
  | .line startsWithText => .after c [] startsWithText
  | .after lineBreak breaks startsWithText => .after lineBreak (c :: breaks) startsWithText

/-- The line breaks before a line that follows, the last first. -/
def BlockState.before (folded startsWithText : Bool) : BlockState → List Char
  | .start breaks => breaks
  | .line _ => []
  | .after lineBreak breaks previous => between folded lineBreak breaks (previous && startsWithText)

/-- The lines of a block scalar that are indented by `indent`, with what is read so far, the last
character first. -/
def blockFrom (folded : Bool) (chomping : Chomping) (indent : Nat) : BlockState → (done : List Char) →
    List Mark → List Char × List Mark
  | state, done, [] => (trailing chomping state ++ done, [])
  | .line startsWithText, done, mark :: rest =>
    if isBreak mark.char then blockFrom folded chomping indent (.after mark.char [] startsWithText) done rest
    else if isEnd mark.char then (done, mark :: rest)
    else blockFrom folded chomping indent (.line startsWithText) (mark.char :: done) rest
  | state, done, mark :: rest =>
    if isBreak mark.char then blockFrom folded chomping indent (state.addBreak mark.char) done rest
    else if mark.char = ' ' ∧ mark.column < indent then blockFrom folded chomping indent state done rest
    else if mark.column = indent ∧ isEnd mark.char = false then
      let startsWithText := !isBlank mark.char
      blockFrom folded chomping indent (.line startsWithText)
        (mark.char :: (state.before folded startsWithText ++ done)) rest
    else (trailing chomping state ++ done, mark :: rest)

/-- A block scalar after its bar or bracket, inside a collection with the given indentation. -/
def blockScalar (folded : Bool) (indent : Int) (rest : List Mark) :
    Except Fault (String × List Mark) := do
  let (header, rest) ← blockHeader rest
  let least := (max (indent + 1) 1).toNat
  let (breaks, width, rest) :=
    match header.increment with
    | some increment => ([], least + increment - 1, rest)
    | none =>
      let (breaks, widest, rest) := leadingLines [] 0 rest
      (breaks, max least widest, rest)
  let (chars, rest) := blockFrom folded header.chomping width (.start breaks) [] rest
  return (String.ofList chars.reverse, rest)

end RouteCompiler.Yaml
