/-
**UTF-16 and UTF-32.**

A unit is two or four bytes in one of two orders. A unit of four bytes is a character. A unit of two bytes is
a character or half of a pair; half of a pair without the other one is a gap. Bytes that are left over at
the end are one gap, together with half of a pair before them.

* `ByteOrder`: which byte of a unit comes first;
* `utf16`, `utf32`: the machines.
-/

import RouteCompiler.Text.Charset.Decoder

namespace RouteCompiler.Text

/-- The order of the bytes of a unit. -/
inductive ByteOrder where
  /-- The lowest byte comes first. -/
  | little
  /-- The highest byte comes first. -/
  | big
  deriving DecidableEq, Repr

/-- The number that bytes write. -/
def ByteOrder.value (order : ByteOrder) (bytes : List UInt8) : Nat :=
  let highestFirst :=
    match order with
    | .little => bytes.reverse
    | .big => bytes
  highestFirst.foldl (fun value byte => value * 256 + byte.toNat) 0

/-- The character with a code. -/
def charOfValue? (code : Nat) : Option Char :=
  if code < 0xD800 ∨ 0xE000 ≤ code ∧ code < 0x110000 then some (Char.ofNat code) else none

/-! ### UTF-16 -/

/-- What is kept between the bytes of UTF-16: the first byte of a unit and the first half of a pair. -/
structure Halves where
  byte : Option UInt8
  high : Option Nat
  deriving DecidableEq, Repr

/-- What a unit reads that follows no half of a pair. -/
def firstUnit (unit : Nat) : Spelled × Halves :=
  if isHighSurrogate unit then ([], ⟨none, some unit⟩)
  else if isLowSurrogate unit then ([none], ⟨none, none⟩)
  else ([some (Char.ofNat unit)], ⟨none, none⟩)

/-- What a unit reads. -/
def stepUnit (high : Option Nat) (unit : Nat) : Spelled × Halves :=
  match high with
  | none => firstUnit unit
  | some high =>
    if isLowSurrogate unit then ([some (pairChar high unit)], ⟨none, none⟩)
    else
      let (read, after) := firstUnit unit
      (none :: read, after)

/-- The machine that reads UTF-16. -/
def utf16 (order : ByteOrder) : Decoder Halves where
  start := ⟨none, none⟩
  step := fun state byte =>
    match state.byte with
    | none => ([], ⟨some byte, state.high⟩)
    | some first => stepUnit state.high (order.value [first, byte])
  finish := fun state => if state.byte.isSome || state.high.isSome then [none] else []

/-! ### UTF-32 -/

/-- The machine that reads UTF-32. It keeps the first bytes of a unit, the last one first. -/
def utf32 (order : ByteOrder) : Decoder (List UInt8) where
  start := []
  step := fun state byte =>
    if state.length = 3 then ([charOfValue? (order.value (byte :: state).reverse)], [])
    else ([], byte :: state)
  finish := fun state => if state.isEmpty then [] else [none]

end RouteCompiler.Text
