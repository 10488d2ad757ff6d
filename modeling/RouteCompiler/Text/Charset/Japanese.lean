/-
**Charsets of Japanese.**

Characters stand in rows of ninety-four. One charset writes row and cell each with a byte from 0xA1 on, and
two others fold two rows into one first byte. All have the narrow syllables besides, and the first one has
supplementary rows after the byte 0x8F.

* `eucJpReading`: row and cell, a byte for each;
* `shiftJisReading`, `cp932Reading`: folded rows, the second one as on windowed systems;
* `laterText?`, `secondChar?`: the rows of the two planes of later charsets, which have two editions;
* `laterEucReading`, `laterShiftReading`: later charsets by row and cell and with folded rows.
-/

import RouteCompiler.Text.Charset.Plane.Japanese
import RouteCompiler.Text.Charset.Plane.JapaneseChanges
import RouteCompiler.Text.Charset.Plane.JapaneseLater
import RouteCompiler.Text.Charset.Sequence

namespace RouteCompiler.Text

/-- The narrow syllable of a byte. -/
def narrowChar? (byte : Nat) : Option Char :=
  if 0xA1 ≤ byte ∧ byte ≤ 0xDF then some (Char.ofNat (0xFEC0 + byte)) else none

/-! ### Row and cell -/

/-- The character of a row and a cell that are bytes. -/
def cellChar? (strips : List Strip) (row cell : Nat) : Option Char :=
  if row < 0x80 ∨ cell < 0x80 then none else Plane.char? strips (row - 0x80) (cell - 0x80)

/-- What the bytes at the start of a text are where row and cell are bytes. -/
def eucJpReading (first : UInt8) (rest : List UInt8) : Reading :=
  if first = 0x8F then
    match rest with
    | row :: cell :: _ => .ofChar? 2 (cellChar? Plane.japaneseSupplement row.toNat cell.toNat)
    | _ => .short
  else
    .ofPair (fun first second =>
      if first = 0x8E then narrowChar? second else cellChar? Plane.japanese first second) first rest

/-! ### Folded rows -/

/-- The place of a second byte among those of a first byte, of which there are twice ninety-four. -/
def foldedPlace? (second : Nat) : Option Nat :=
  if second < 0x40 ∨ second = 0x7F ∨ 0xFC < second then none
  else some (second - if second < 0x7F then 0x40 else 0x41)

/-- The number of the folded row of two bytes and its cell. -/
def foldedCell? (first second : Nat) : Option (Nat × Nat) := do
  let place ← foldedPlace? second
  let pair := first - if first < 0xE0 then 0x81 else 0xC1
  return (2 * pair + place / 94, place % 94 + 0x21)

/-- The character of folded rows. -/
def foldedChar? (first second : Nat) : Option Char := do
  let (row, cell) ← foldedCell? first second
  Plane.char? Plane.japanese (row + 0x21) cell

/-- Whether a byte stands for two rows. -/
def isFolded (first last : Nat) : Bool :=
  decide (0x81 ≤ first ∧ first ≤ 0x9F) || decide (0xE0 ≤ first ∧ first ≤ last)

/-- What the bytes at the start of a text are where rows are folded. -/
def shiftJisReading (first : UInt8) (rest : List UInt8) : Reading :=
  if isFolded first.toNat 0xFC then .ofPair foldedChar? first rest
  else if first.toNat < 0x80 then .single first.toNat
  else .ofChar? 0 (narrowChar? first.toNat)

/-- A character of the area that is the user's. -/
def ownChar? (first second : Nat) : Option Char := do
  let place ← foldedPlace? second
  return Char.ofNat (0xE000 + 188 * (first - 0xF0) + place)

/-- The character of two bytes on windowed systems. -/
def cp932Char? (first second : Nat) : Option Char :=
  (Plane.char? Plane.japaneseChanges first second).or
    (if isFolded first 0xEA then foldedChar? first second
    else if 0xF0 ≤ first ∧ first ≤ 0xF9 then ownChar? first second
    else none)

/-- What the bytes at the start of a text are on windowed systems. -/
def cp932Reading (first : UInt8) (rest : List UInt8) : Reading :=
  let byte := first.toNat
  if byte ≤ 0x80 then .single byte
  else if byte = 0xA0 then .char (Char.ofNat 0xF8F0) 0
  else if 0xFD ≤ byte then .char (Char.ofNat (0xF8F1 + (byte - 0xFD))) 0
  else if 0xA1 ≤ byte ∧ byte ≤ 0xDF then .ofChar? 0 (narrowChar? byte)
  else .ofPair cp932Char? first rest

/-! ### Later charsets -/

/-- The editions of the later charsets. -/
inductive Edition where
  /-- The first one. -/
  | first
  /-- The second one. -/
  | second
  deriving DecidableEq, Repr

/-- The rows and cells of the first plane that the first edition lacks. -/
def laterCells : List (Nat × Nat) :=
  [(0x2E, 0x21), (0x2F, 0x7E), (0x4F, 0x54), (0x4F, 0x7E), (0x74, 0x27), (0x7E, 0x7A), (0x7E, 0x7B),
    (0x7E, 0x7C), (0x7E, 0x7D), (0x7E, 0x7E)]

/-- The rows and cells of the first plane that spell a letter with a mark, or a rise or fall of the
voice. -/
def laterClusters : List Plane.Cluster := [
  ⟨0x24, 0x77, "か\u309a"⟩, ⟨0x24, 0x78, "き\u309a"⟩, ⟨0x24, 0x79, "く\u309a"⟩, ⟨0x24, 0x7A, "け\u309a"⟩,
  ⟨0x24, 0x7B, "こ\u309a"⟩, ⟨0x25, 0x77, "カ\u309a"⟩, ⟨0x25, 0x78, "キ\u309a"⟩, ⟨0x25, 0x79, "ク\u309a"⟩,
  ⟨0x25, 0x7A, "ケ\u309a"⟩, ⟨0x25, 0x7B, "コ\u309a"⟩, ⟨0x25, 0x7C, "セ\u309a"⟩, ⟨0x25, 0x7D, "ツ\u309a"⟩,
  ⟨0x25, 0x7E, "ト\u309a"⟩, ⟨0x26, 0x78, "ㇷ\u309a"⟩, ⟨0x2B, 0x44, "æ\u0300"⟩, ⟨0x2B, 0x48, "ɔ\u0300"⟩,
  ⟨0x2B, 0x49, "ɔ\u0301"⟩, ⟨0x2B, 0x4A, "ʌ\u0300"⟩, ⟨0x2B, 0x4B, "ʌ\u0301"⟩, ⟨0x2B, 0x4C, "ə\u0300"⟩,
  ⟨0x2B, 0x4D, "ə\u0301"⟩, ⟨0x2B, 0x4E, "ɚ\u0300"⟩, ⟨0x2B, 0x4F, "ɚ\u0301"⟩, ⟨0x2B, 0x65, "˩˥"⟩,
  ⟨0x2B, 0x66, "˥˩"⟩]

/-- Whether a row and a cell of the first plane are lacking. -/
def isLacking (edition : Edition) (row cell : Nat) : Bool :=
  edition == .first && laterCells.contains (row, cell)

/-- What a row and a cell of the first plane spell. -/
def laterText? (edition : Edition) (row cell : Nat) : Option (List Char) :=
  if isLacking edition row cell then none
  else Plane.text? (Plane.japanese ++ Plane.japaneseLater) laterClusters row cell

/-- The character of a row and a cell of the second plane. One of them was changed. -/
def secondChar? (edition : Edition) (row cell : Nat) : Option Char :=
  if edition = .first ∧ row = 0x7D ∧ cell = 0x3B then some '\u9b1d'
  else Plane.char? Plane.japaneseSecond row cell

/-- What a row and a cell of the first plane that are bytes spell. Its tilde is wide. -/
def laterEucText? (edition : Edition) (row cell : Nat) : Option (List Char) :=
  if row < 0x80 ∨ cell < 0x80 then none
  else if row = 0xA2 ∧ cell = 0xB2 then some ['\uff5e']
  else laterText? edition (row - 0x80) (cell - 0x80)

/-- The character of a row and a cell that are bytes, after the byte that leads to the second plane, where
the supplementary rows fill what is free. -/
def secondEucChar? (edition : Edition) (row cell : Nat) : Option Char :=
  if row < 0x80 ∨ cell < 0x80 then none
  else
    (secondChar? edition (row - 0x80) (cell - 0x80)).or
      (Plane.char? Plane.japaneseSupplement (row - 0x80) (cell - 0x80))

/-- What a byte or two bytes are in a later charset where row and cell are bytes. -/
def laterPairReading (edition : Edition) : UInt8 → List UInt8 → Reading :=
  .ofTextPair fun first second =>
    if first = 0x8E then (narrowChar? second).map fun c => [c] else laterEucText? edition first second

/-- What the bytes at the start of a text are in a later charset where row and cell are bytes. What is
lacking is one gap. -/
def laterEucReading (edition : Edition) (first : UInt8) (rest : List UInt8) : Reading :=
  match rest with
  | row :: cell :: _ =>
    if first = 0x8F then .ofChar? 2 (secondEucChar? edition row.toNat cell.toNat)
    else if isLacking edition (first.toNat - 0x80) (row.toNat - 0x80) then .gap 1
    else laterPairReading edition first rest
  | cell :: [] =>
    if first = 0x8F then .short
    else if isLacking edition (first.toNat - 0x80) (cell.toNat - 0x80) then .gap 1
    else laterPairReading edition first rest
  | [] => laterPairReading edition first rest

/-- The row of the second plane with a number among the folded rows after the first plane. -/
def secondRow (number : Nat) : Nat :=
  if 9 ≤ number then number + 0x65
  else if 5 ≤ number ∨ number = 1 then number + 0x27
  else number + 0x21

/-- What a folded row and its cell spell in a later charset. The backslash of its first plane is narrow. -/
def laterFoldedText? (edition : Edition) (row cell : Nat) : Option (List Char) :=
  if 0x5E ≤ row then (secondChar? edition (secondRow (row - 0x5E)) cell).map fun c => [c]
  else if row = 0 ∧ cell = 0x40 then some ['\\']
  else laterText? edition (row + 0x21) cell

/-- What two bytes of folded rows are in a later charset. What is lacking is one gap. -/
def laterFoldedReading (edition : Edition) (first : UInt8) (rest : List UInt8) : Reading :=
  match rest with
  | [] => .short
  | second :: _ =>
    match foldedCell? first.toNat second.toNat with
    | none => .gap 0
    | some (row, cell) =>
      if row < 0x5E ∧ isLacking edition (row + 0x21) cell then .gap 1
      else .ofText? 1 (laterFoldedText? edition row cell)

/-- The character of a byte where the signs of a keyboard of Japan stand for a backslash and a tilde. -/
def romanChar (byte : Nat) : Char :=
  if byte = 0x5C then '\u00a5' else if byte = 0x7E then '\u203e' else Char.ofNat byte

/-- What the bytes at the start of a text are in a later charset with folded rows. -/
def laterShiftReading (edition : Edition) (first : UInt8) (rest : List UInt8) : Reading :=
  if isFolded first.toNat 0xFC then laterFoldedReading edition first rest
  else if first.toNat < 0x80 then .char (romanChar first.toNat) 0
  else .ofChar? 0 (narrowChar? first.toNat)

end RouteCompiler.Text
