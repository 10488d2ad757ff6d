/-
**Characters written as escapes.**

Every byte is the character with its code, but a backslash starts an escape: a character by its code in
hexadecimal digits, and in the fuller charset also in octal digits, by a letter, or as itself. An escape whose
digits break off is a gap. A name of a character in braces is not looked up and is a gap as well.

* `escapedReading`: the fuller charset;
* `codesReading`: the charset with escapes by code alone.
-/

import RouteCompiler.Text.Charset.Sequence
import RouteCompiler.Text.Charset.Utf16
import RouteCompiler.Text.Hex

namespace RouteCompiler.Text

/-- The character with the code that a byte is. -/
def charOfByte (byte : UInt8) : Char :=
  Char.ofNat byte.toNat

/-- The value of a hexadecimal digit that is a byte. -/
def hexOfByte? (byte : UInt8) : Option Nat :=
  if byte.toNat < 0x80 then hexValue? (charOfByte byte) else none

/-- An escape by code: the digits that are owed, the code so far, and the bytes after the backslash that are
read. -/
def codeReading : (owed code read : Nat) → List UInt8 → Reading
  | 0, code, read, _ => if code < 0x110000 then .read [charOfValue? code] read else .gap read
  | _ + 1, _, _, [] => .short
  | owed + 1, code, read, byte :: rest =>
    match hexOfByte? byte with
    | some digit => codeReading owed (code * 16 + digit) (read + 1) rest
    | none => .gap read

/-- Characters that stand for themselves after a backslash. -/
def keptReading (byte : UInt8) : Reading :=
  .read [some '\\', some (charOfByte byte)] 1

/-- What the bytes at the start of a text are where escapes are by code alone. -/
def codesReading (first : UInt8) (rest : List UInt8) : Reading :=
  match charOfByte first, rest with
  | '\\', second :: more =>
    match charOfByte second with
    | 'u' => codeReading 4 0 1 more
    | 'U' => codeReading 8 0 1 more
    | _ => keptReading second
  | c, _ => .char c 0

/-- The character that a letter or sign after a backslash stands for. -/
def escapedChar? : Char → Option Char
  | '\\' => some '\\'
  | '\'' => some '\''
  | '"' => some '"'
  | 'a' => some '\x07'
  | 'b' => some '\x08'
  | 'f' => some '\x0c'
  | 'n' => some '\n'
  | 'r' => some '\r'
  | 't' => some '\t'
  | 'v' => some '\x0b'
  | _ => none

/-- Whether a byte is an octal digit. -/
def isOctal (byte : UInt8) : Bool :=
  decide (0x30 ≤ byte.toNat ∧ byte.toNat ≤ 0x37)

/-- An escape of one to three octal digits. -/
def octalReading (bytes : List UInt8) : Reading :=
  let digits := (bytes.take 3).takeWhile isOctal
  .char (Char.ofNat (digits.foldl (fun code byte => code * 8 + (byte.toNat - 0x30)) 0)) digits.length

/-- An escape by name, after the letter that announces it. -/
def nameReading : List UInt8 → Reading
  | [] => .short
  | byte :: rest =>
    if charOfByte byte = '\x7b' then
      let name := rest.takeWhile fun byte => charOfByte byte ≠ '\x7d'
      if name.length = rest.length then .short
      else .gap (if name.isEmpty then 2 else name.length + 3)
    else .gap 1

/-- What the bytes at the start of a text are in the fuller charset. -/
def escapedReading (first : UInt8) (rest : List UInt8) : Reading :=
  match charOfByte first, rest with
  | '\\', [] => .short
  | '\\', second :: more =>
    match charOfByte second with
    | '\n' => .read [] 1
    | 'x' => codeReading 2 0 1 more
    | 'u' => codeReading 4 0 1 more
    | 'U' => codeReading 8 0 1 more
    | 'N' => nameReading more
    | c =>
      if isOctal second then octalReading (second :: more)
      else
        match escapedChar? c with
        | some char => .char char 1
        | none => keptReading second
  | c, _ => .char c 0

end RouteCompiler.Text
