/-
**Whole numbers written as text.**

A whole number may be written with the decimal digits of any script, a sign, white space around it and
single underscores between digits. The digits of each script are ten consecutive code points
(Unicode 14), so a script is given by its zero.

* `digitValue? c`: the value of a decimal digit;
* `readNatural?`: digits with single underscores between them;
* `readInteger?`: the same with a sign, white space around it;
* `Base.readInteger?`: the same in base two, eight or sixteen;
* `isTooLong`: whether a number has too many digits to be written.
-/

import RouteCompiler.Number.Power
import RouteCompiler.Text.Blank
import RouteCompiler.Text.Hex

namespace RouteCompiler.Text

/-- The zero of every script with decimal digits. -/
def digitZeros : List Nat :=
  [
    0x30, 0x660, 0x6F0, 0x7C0, 0x966, 0x9E6, 0xA66, 0xAE6, 0xB66, 0xBE6,
    0xC66, 0xCE6, 0xD66, 0xDE6, 0xE50, 0xED0, 0xF20, 0x1040, 0x1090, 0x17E0,
    0x1810, 0x1946, 0x19D0, 0x1A80, 0x1A90, 0x1B50, 0x1BB0, 0x1C40, 0x1C50, 0xA620,
    0xA8D0, 0xA900, 0xA9D0, 0xA9F0, 0xAA50, 0xABF0, 0xFF10, 0x104A0, 0x10D30, 0x11066,
    0x110F0, 0x11136, 0x111D0, 0x112F0, 0x11450, 0x114D0, 0x11650, 0x116C0, 0x11730, 0x118E0,
    0x11950, 0x11C50, 0x11D50, 0x11DA0, 0x16A60, 0x16AC0, 0x16B50, 0x1D7CE, 0x1D7D8, 0x1D7E2,
    0x1D7EC, 0x1D7F6, 0x1E140, 0x1E2F0, 0x1E950, 0x1FBF0
  ]

/-- The value of a decimal digit of any script. -/
def digitValue? (c : Char) : Option Nat :=
  (digitZeros.find? fun start => decide (start ≤ c.toNat) && decide (c.toNat ≤ start + 9)).map
    fun start => c.toNat - start

/-- A digit, then digits each with at most one underscore before it, onto what is read already. -/
def readDigits? (digit? : Char → Option Nat) (base : Nat) : Nat → List Char → Option Nat
  | value, [] => some value
  | value, '_' :: c :: rest => do
    let d ← digit? c
    readDigits? digit? base (value * base + d) rest
  | value, c :: rest => do
    let d ← digit? c
    readDigits? digit? base (value * base + d) rest

/-- A number in the given base: digits with single underscores between them. -/
def readNaturalIn? (digit? : Char → Option Nat) (base : Nat) : List Char → Option Nat
  | [] => none
  | c :: rest => do
    let d ← digit? c
    readDigits? digit? base d rest

/-- The most decimal digits that a whole number may have where it is read or written. -/
def digitLimit : Nat :=
  4300

/-- A natural number in decimal digits of any script. -/
def readNatural? (chars : List Char) : Option Nat :=
  if chars.countP (· != '_') ≤ digitLimit then readNaturalIn? digitValue? 10 chars else none

/-- A sign is optional before a number. -/
def readSigned? (read? : List Char → Option Nat) : List Char → Option Int
  | '-' :: rest => (read? rest).map fun n => -(n : Int)
  | '+' :: rest => (read? rest).map Int.ofNat
  | chars => (read? chars).map Int.ofNat

/-- A whole number with white space around it. -/
def readInteger? (chars : List Char) : Option Int :=
  readSigned? readNatural? (trimmed isWhiteSpace chars)

/-! ### Bases that are powers of two -/

/-- A base other than ten. -/
inductive Base where
  /-- Base two. -/
  | binary
  /-- Base eight. -/
  | octal
  /-- Base sixteen. -/
  | hexadecimal
  deriving DecidableEq, Repr

/-- The number of digits of a base. -/
def Base.size : Base → Nat
  | .binary => 2
  | .octal => 8
  | .hexadecimal => 16

/-- The letter that names a base after a zero. -/
def Base.letter : Base → Char
  | .binary => 'b'
  | .octal => 'o'
  | .hexadecimal => 'x'

/-- The value of a digit of a base. -/
def Base.digit? (base : Base) (c : Char) : Option Nat :=
  ((digitValue? c).or (hexValue? c)).filter (· < base.size)

/-- The digits after a zero and the letter of their base, which may be left out. -/
def Base.digits (base : Base) : List Char → List Char
  | '0' :: c :: rest => if c.toLower = base.letter then rest else '0' :: c :: rest
  | chars => chars

/-- A whole number in a base, with white space around it. -/
def Base.readInteger? (base : Base) (chars : List Char) : Option Int :=
  readSigned? (fun chars => readNaturalIn? base.digit? base.size (base.digits chars))
    (trimmed isWhiteSpace chars)

/-! ### Limits -/

/-- The least number with too many decimal digits to be written. -/
def leastTooLong : Nat :=
  tenTo digitLimit

/-- Whether a whole number has too many decimal digits to be written. -/
def isTooLong (value : Int) : Bool :=
  decide (leastTooLong ≤ value.natAbs)

end RouteCompiler.Text
