/-
**Charsets that are switched by escapes.**

A text of seven bits starts in ASCII, and escapes switch to sheets of characters and back. There are three
slots for sheets: one that bytes are read with, one that is read with between two control characters, and
one for a single byte after an escape. An escape of another kind is passed on as it is, up to its end. A
simpler charset has a single sheet, which is switched to with a tilde and a brace.

* `Sheet`, `Sheet.text?`: the sheets and what bytes spell on them;
* `Switching`: the sheets of a charset and what it understands;
* `Slots`: the sheets in the slots;
* `switchedReading`: what the bytes at the start of a text are;
* `tildeReading`: the same for the simpler charset.
-/

import RouteCompiler.Text.Charset.Chart.Iso
import RouteCompiler.Text.Charset.Chinese
import RouteCompiler.Text.Charset.Escaped
import RouteCompiler.Text.Charset.Japanese
import RouteCompiler.Text.Charset.Korean

namespace RouteCompiler.Text

/-! ### Sheets -/

/-- A sheet of characters. -/
inductive Sheet where
  /-- ASCII. -/
  | ascii
  /-- The characters from U+0080 to U+00FF. -/
  | western
  /-- The Greek ones above ASCII. -/
  | greek
  /-- ASCII as on a keyboard of Japan. -/
  | roman
  /-- The narrow syllables of Japanese. -/
  | narrow
  /-- Japanese. -/
  | japanese
  /-- The supplementary rows of Japanese. -/
  | supplement
  /-- The first plane of a later charset of Japanese. -/
  | later (edition : Edition)
  /-- The second plane of the later charsets of Japanese. -/
  | secondPlane
  /-- Korean. -/
  | korean
  /-- Simplified Chinese. -/
  | simplified
  deriving DecidableEq, Repr

namespace Sheet

/-- Whether a character of the sheet is two bytes. -/
def isDouble : Sheet → Bool
  | .ascii | .western | .greek | .roman | .narrow => false
  | _ => true

/-- What a byte below 0x80 spells. -/
def single? : Sheet → (byte : Nat) → Option (List Char)
  | .ascii, byte => some [Char.ofNat byte]
  | .roman, byte => some [romanChar byte]
  | .narrow, byte => (narrowChar? (byte + 0x80)).map fun c => [c]
  | _, _ => none

/-- What two bytes spell, the first one below 0x80. -/
def double? (sheet : Sheet) (first second : Nat) : Option (List Char) :=
  if 0x80 ≤ second then none
  else
    match sheet with
    | .japanese => (Plane.char? Plane.japanese first second).map fun c => [c]
    | .supplement => (Plane.char? Plane.japaneseSupplement first second).map fun c => [c]
    | .later edition => laterText? edition first second
    | .secondPlane => (secondChar? .second first second).map fun c => [c]
    | .korean => (eucKrChar? (first + 0x80) (second + 0x80)).map fun c => [c]
    | .simplified => (gb2312Char? (first + 0x80) (second + 0x80)).map fun c => [c]
    | _ => none

/-- What the bytes at the start of a text are on a sheet. -/
def reading (sheet : Sheet) (first : UInt8) (rest : List UInt8) : Reading :=
  if sheet.isDouble then
    match rest with
    | [] => .short
    | second :: _ =>
      match sheet.double? first.toNat second.toNat with
      | some chars => .read (chars.map some) 1
      | none => .gap 1
  else .ofText? 0 (sheet.single? first.toNat)

end Sheet

/-! ### Switching -/

/-- The sheets of a charset by the last byte of the escape that switches to them, with whether their
characters are two bytes, and what else it understands: the two control characters, and the slot for a
single byte. -/
structure Switching where
  sheets : List (Bool × Char × Sheet)
  hasShift : Bool
  hasSingle : Bool
  deriving Repr

/-- The sheet of an escape. -/
def Switching.sheet? (switching : Switching) (isDouble : Bool) (last : UInt8) : Option Sheet :=
  if isDouble = false ∧ charOfByte last = 'B' then some .ascii
  else
    (switching.sheets.find? fun sheet => sheet.1 == isDouble && sheet.2.1 == charOfByte last).map
      fun sheet => sheet.2.2

/-- The sheets in the slots: the one that bytes are read with, the one that they are read with while
shifted, and the one for a single byte. While an escape of another kind is passed on nothing is switched. -/
structure Slots where
  main : Sheet
  shifted : Sheet
  single : Sheet
  isShifted : Bool
  isPassing : Bool
  deriving DecidableEq, Repr

/-- The sheets at the start of a text. -/
def Slots.start : Slots :=
  ⟨.ascii, .ascii, .ascii, false, false⟩

/-- The byte that starts an escape. -/
def escapeStart : UInt8 :=
  0x1B

/-! ### Escapes -/

/-- Where an escape ends. -/
inductive EscapeEnd where
  /-- The text ends before it. -/
  | cut
  /-- It is too long. -/
  | never
  /-- It has so many bytes after the first. -/
  | after (length : Nat)
  deriving DecidableEq, Repr

/-- Whether a byte ends an escape. -/
def endsEscape (byte : UInt8) : Bool :=
  decide (0x40 ≤ byte.toNat ∧ byte.toNat ≤ 0x5A)

/-- Where an escape ends of which `length` bytes after the first are read. In a charset without the control
characters a number of its edition may stand in front of it. -/
def escapeEnd (hasShift : Bool) : (length : Nat) → List UInt8 → EscapeEnd
  | length, [] => if 15 ≤ length then .never else .cut
  | length, byte :: rest =>
    if 15 ≤ length then .never
    else if endsEscape byte then .after (length + 1)
    else if !hasShift && charOfByte byte == '&' && rest.head?.map charOfByte == some '@' then
      escapeEnd hasShift (length + 3) (rest.drop 2)
    else escapeEnd hasShift (length + 1) rest
termination_by _ bytes => bytes.length
decreasing_by all_goals simp only [List.length_cons, List.length_drop]; omega

/-- The slots after an escape with the given bytes after the first. -/
def switch? (switching : Switching) (slots : Slots) (escape : List UInt8) : Option Slots :=
  match escape.map charOfByte, escape with
  | ['$', _], [_, last] => (switching.sheet? true last).map fun sheet => { slots with main := sheet }
  | ['(', _], [_, last] => (switching.sheet? false last).map fun sheet => { slots with main := sheet }
  | [')', _], [_, last] => (switching.sheet? false last).map fun sheet => { slots with shifted := sheet }
  | ['.', _], [_, last] =>
    if switching.hasSingle then
      (switching.sheet? false last).map fun sheet => { slots with single := sheet }
    else none
  | ['$', '(', _], [_, _, last] =>
    (switching.sheet? true last).map fun sheet => { slots with main := sheet }
  | ['$', ')', _], [_, _, last] =>
    (switching.sheet? true last).map fun sheet => { slots with shifted := sheet }
  | [_, _, '\x1b', '$', 'B'], _ => if switching.hasShift then none else some { slots with main := .japanese }
  | _, _ => none

/-- The number of bytes that are kept until their escape is complete. -/
def keptBytes : Nat :=
  8

/-- What an escape is, and the slots after it. -/
def escapeReading (switching : Switching) (slots : Slots) (bytes : List UInt8) : Reading × Slots :=
  match escapeEnd switching.hasShift 0 bytes with
  | .cut => (if keptBytes ≤ bytes.length then .lost else .short, slots)
  | .never => (.gap 0, slots)
  | .after length =>
    match switch? switching slots (bytes.take length) with
    | some after => (.read [] length, after)
    | none => (.gap length, slots)

/-- The Greek letter or sign of a byte above ASCII. Three of its signs are younger than the sheet. -/
def greekChar? (byte : UInt8) : Option Char :=
  if [0xA4, 0xA5, 0xAA].contains byte.toNat then none
  else (Chart.iso.find? fun chart => chart.name == "iso8859_7").bind fun chart => chart.char? byte

/-- What a single byte spells in its slot. -/
def singleChar? (sheet : Sheet) (byte : UInt8) : Option Char :=
  match sheet with
  | .ascii => if byte.toNat < 0x80 then some (charOfByte byte) else none
  | .western => if byte.toNat < 0x80 then some (charOfByte (byte + 0x80)) else none
  | .greek => greekChar? (byte ^^^ 0x80)
  | _ => none

/-- What the bytes after an escape character are, and the slots after them. -/
def afterEscape (switching : Switching) (slots : Slots) (rest : List UInt8) : Reading × Slots :=
  match rest with
  | [] => (.short, slots)
  | second :: more =>
    if ['(', ')', '$', '.', '&'].contains (charOfByte second) then escapeReading switching slots rest
    else if switching.hasSingle && charOfByte second == 'N' then
      match more with
      | [] => (.short, slots)
      | byte :: _ =>
        ((((singleChar? slots.single byte).map fun c => Reading.char c 2)).getD (.gap 2), slots)
    else (.single escapeStart.toNat, { slots with isPassing := true })

/-! ### Reading -/

/-- What the bytes at the start of a text are, and the slots after them. A line starts unshifted. -/
def switchedReading (switching : Switching) (slots : Slots) (first : UInt8) (rest : List UInt8) :
    Reading × Slots :=
  if slots.isPassing then
    (.single first.toNat, if endsEscape first then { slots with isPassing := false } else slots)
  else if first = escapeStart then afterEscape switching slots rest
  else if switching.hasShift && first == 0x0F then (.read [] 0, { slots with isShifted := false })
  else if switching.hasShift && first == 0x0E then (.read [] 0, { slots with isShifted := true })
  else if first = 0x0A then (.single first.toNat, { slots with isShifted := false })
  else if first.toNat < 0x20 then (.single first.toNat, slots)
  else if 0x80 ≤ first.toNat then (.gap 0, slots)
  else ((if slots.isShifted then slots.shifted else slots.main).reading first rest, slots)

/-- Japanese in its first form. -/
def switchedJapanese : Switching :=
  ⟨[(true, 'B', .japanese), (false, 'J', .roman), (true, '@', .japanese)], false, false⟩

/-- Japanese with the supplementary rows. -/
def switchedSupplement : Switching :=
  ⟨(true, 'D', .supplement) :: switchedJapanese.sheets, false, false⟩

/-- Japanese with other scripts. -/
def switchedScripts : Switching :=
  ⟨[(true, 'C', .korean), (true, 'A', .simplified), (false, 'A', .western), (false, 'F', .greek)] ++
    switchedSupplement.sheets, false, true⟩

/-- Japanese with the narrow syllables. -/
def switchedNarrow : Switching :=
  ⟨(false, 'I', .narrow) :: switchedSupplement.sheets, false, false⟩

/-- Later Japanese. -/
def switchedLater : Edition → Switching
  | .first => ⟨[(true, 'B', .japanese), (true, 'O', .later .first), (true, 'P', .secondPlane)], false, false⟩
  | .second => ⟨[(true, 'B', .japanese), (true, 'Q', .later .second), (true, 'P', .secondPlane)], false, false⟩

/-- Korean. -/
def switchedKorean : Switching :=
  ⟨[(true, 'C', .korean)], true, false⟩

/-- What bytes spell. -/
def readSwitched (switching : Switching) (bytes : List UInt8) : Option Spelled :=
  readFrom (switchedReading switching) Slots.start 0 [] bytes

/-! ### Tildes -/

/-- What the bytes at the start of a text are where a tilde and a brace switch, and whether Chinese is read
after them. A tilde is written twice, and one before the end of a line joins it to the next. -/
def tildeReading (isChinese : Bool) (first : UInt8) (rest : List UInt8) : Reading × Bool :=
  if charOfByte first = '~' then
    match rest with
    | [] => (.short, isChinese)
    | second :: _ =>
      match isChinese, charOfByte second with
      | false, '~' => (.char '~' 1, false)
      | false, '\x7b' => (.read [] 1, true)
      | false, '\n' => (.read [] 1, false)
      | true, '\x7d' => (.read [] 1, false)
      | _, _ => (.gap 0, isChinese)
  else if 0x80 ≤ first.toNat then (.gap 0, isChinese)
  else if isChinese then
    match rest with
    | [] => (.short, isChinese)
    | second :: _ => (.ofText? 1 (Sheet.simplified.double? first.toNat second.toNat), isChinese)
  else (.single first.toNat, isChinese)

/-- What bytes spell where a tilde and a brace switch. -/
def readTilde (bytes : List UInt8) : Option Spelled :=
  readFrom tildeReading false 0 [] bytes

end RouteCompiler.Text
