/-
**UTF-8.**

A character is one to four bytes. Bytes below 0x80 stand alone; a first byte from 0xC2 on says how many
follow it and within which bounds the next one lies. Bytes that start a character and do not complete it are
one gap, and so is a byte that can start none.

* `utf8`: the machine.
-/

import RouteCompiler.Text.Charset.Decoder

namespace RouteCompiler.Text

/-- A character whose last bytes are still to come: its bits so far, how many bytes are owed, and the bounds
of the next one. -/
structure Unfinished where
  code : Nat
  owed : Nat
  least : Nat
  greatest : Nat
  deriving DecidableEq, Repr

/-- What a first byte from 0x80 on leaves to come. -/
def unfinished? (byte : Nat) : Option Unfinished :=
  if byte < 0xC2 then none
  else if byte < 0xE0 then some ⟨byte - 0xC0, 1, 0x80, 0xBF⟩
  else if byte < 0xF0 then
    some ⟨byte - 0xE0, 2, if byte = 0xE0 then 0xA0 else 0x80, if byte = 0xED then 0x9F else 0xBF⟩
  else if byte < 0xF5 then
    some ⟨byte - 0xF0, 3, if byte = 0xF0 then 0x90 else 0x80, if byte = 0xF4 then 0x8F else 0xBF⟩
  else none

/-- What a first byte reads, and what is kept after it. -/
def firstUtf8 (byte : UInt8) : Spelled × Option Unfinished :=
  if byte.toNat < 0x80 then ([some (Char.ofNat byte.toNat)], none)
  else
    match unfinished? byte.toNat with
    | some kept => ([], some kept)
    | none => ([none], none)

/-- What a byte reads, and what is kept after it. -/
def stepUtf8 (state : Option Unfinished) (byte : UInt8) : Spelled × Option Unfinished :=
  match state with
  | none => firstUtf8 byte
  | some kept =>
    if kept.least ≤ byte.toNat ∧ byte.toNat ≤ kept.greatest then
      let code := kept.code * 64 + (byte.toNat - 0x80)
      if kept.owed = 1 then ([some (Char.ofNat code)], none)
      else ([], some ⟨code, kept.owed - 1, 0x80, 0xBF⟩)
    else
      let (read, after) := firstUtf8 byte
      (none :: read, after)

/-- The machine that reads UTF-8. -/
def utf8 : Decoder (Option Unfinished) where
  start := none
  step := stepUtf8
  finish := fun state => if state.isSome then [none] else []

end RouteCompiler.Text
