/-
**UTF-7.**

Bytes below 0x80 are characters, but a plus sign starts a run of base 64 that spells units of UTF-16. The run
ends at the first byte outside the alphabet, and a minus sign that ends it is no character; a plus sign
followed by a minus sign is itself. A run that is left with bits of a character, or with bits that are not
zero, is a gap together with the byte that ends it, and so is a plus sign before a byte that neither starts a
run nor ends it.

* `utf7`: the machine.
-/

import RouteCompiler.Number.Power
import RouteCompiler.Text.Base64
import RouteCompiler.Text.Charset.Decoder

namespace RouteCompiler.Text

/-- A run of base 64: how many bits wait for more, what they are, and the first half of a pair. -/
structure Base64Run where
  count : Nat
  bits : Nat
  high : Option Nat
  deriving DecidableEq, Repr

/-- What is kept between the bytes of UTF-7. -/
inductive ShiftState where
  /-- Characters stand for themselves. -/
  | direct
  /-- The last byte was a plus sign. -/
  | opened
  /-- A run of base 64 goes on. -/
  | inside (run : Base64Run)
  deriving DecidableEq, Repr

/-- The value of a byte of the alphabet. -/
def sextetOfByte? (byte : UInt8) : Option Nat :=
  if byte.toNat < 0x80 then sextet? (Char.ofNat byte.toNat) else none

/-- What a unit of a run reads, and the half of a pair that is kept. -/
def unitOfRun (high : Option Nat) (unit : Nat) : Spelled × Option Nat :=
  match high with
  | some first =>
    if isLowSurrogate unit then ([some (pairChar first unit)], none)
    else if isHighSurrogate unit then ([none], some unit)
    else ([none, charOfUnit? unit], none)
  | none => if isHighSurrogate unit then ([], some unit) else ([charOfUnit? unit], none)
where
  charOfUnit? (unit : Nat) : Option Char :=
    if isLowSurrogate unit then none else some (Char.ofNat unit)

/-- What six more bits of a run read. -/
def Base64Run.add (run : Base64Run) (sextet : Nat) : Spelled × ShiftState :=
  let count := run.count + 6
  let bits := run.bits * 64 + sextet
  if 16 ≤ count then
    let (read, high) := unitOfRun run.high (bits / twoTo (count - 16))
    (read, .inside ⟨count - 16, bits % twoTo (count - 16), high⟩)
  else ([], .inside ⟨count, bits, run.high⟩)

/-- Whether a run may end: at most five bits wait, and they are zero. -/
def Base64Run.isComplete (run : Base64Run) : Bool :=
  decide (run.count < 6) && run.bits == 0

/-- What a byte reads outside a run. -/
def directByte (byte : UInt8) : Spelled × ShiftState :=
  if byte = 0x2B then ([], .opened)
  else if byte.toNat < 0x80 then ([some (Char.ofNat byte.toNat)], .direct)
  else ([none], .direct)

/-- What a byte reads that ends a run. -/
def closingByte (run : Base64Run) (byte : UInt8) : Spelled × ShiftState :=
  if !run.isComplete then ([none], .direct)
  else
    let half : Spelled := if run.high.isSome && byte.toNat < 0x80 && byte != 0x2B then [none] else []
    if byte = 0x2D then (half, .direct)
    else
      let (read, after) := directByte byte
      (half ++ read, after)

/-- What a byte reads. -/
def stepUtf7 (state : ShiftState) (byte : UInt8) : Spelled × ShiftState :=
  match state with
  | .direct => directByte byte
  | .opened =>
    match sextetOfByte? byte with
    | some sextet => ([], .inside ⟨6, sextet, none⟩)
    | none => ([if byte = 0x2D then some '+' else none], .direct)
  | .inside run =>
    match sextetOfByte? byte with
    | some sextet => run.add sextet
    | none => closingByte run byte

/-- What is left of a run when no byte follows. -/
def finishUtf7 : ShiftState → Spelled
  | .inside run => if run.high.isNone && run.isComplete then [] else [none]
  | _ => []

/-- The machine that reads UTF-7. -/
def utf7 : Decoder ShiftState where
  start := .direct
  step := stepUtf7
  finish := finishUtf7

end RouteCompiler.Text
