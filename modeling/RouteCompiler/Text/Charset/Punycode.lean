/-
**Punycode.**

A text is written in two parts with a hyphen between them. The first one holds its plain characters; the
second one is a row of numbers, each of which says what the next other character is and where it goes. The
numbers are written with letters and digits, the least digit first, and their digits run to a bound that
follows the numbers before.

* `number?`: the number at the start of a text;
* `insertAll`: the characters that numbers insert;
* `read?`: what bytes spell.
-/

import RouteCompiler.Text.Charset.Decoder
import RouteCompiler.Text.Charset.Utf16

namespace RouteCompiler.Text.Punycode

/-! ### Numbers -/

/-- The value of a digit: letters come before digits. -/
def digit? (c : Char) : Option Nat :=
  if 'a' ≤ c ∧ c ≤ 'z' then some (c.toNat - 0x61)
  else if 'A' ≤ c ∧ c ≤ 'Z' then some (c.toNat - 0x41)
  else if '0' ≤ c ∧ c ≤ '9' then some (c.toNat - 22)
  else none

/-- The digits below this one end a number at a place. -/
def bound (place bias : Nat) : Nat :=
  min 26 (max 1 (36 * (place + 1) - bias))

/-- The number at the start of a text, of which the digits at lower places make up `sum`, and the rest of
the text. Nothing if a character is no digit or the text ends. -/
def number? (bias place weight sum : Nat) : List Char → Option (Nat × List Char)
  | [] => none
  | c :: rest =>
    match digit? c with
    | none => none
    | some digit =>
      if digit < bound place bias then some (sum + digit * weight, rest)
      else number? bias (place + 1) (weight * (36 - bound place bias)) (sum + digit * weight) rest

theorem number?_length {bias place weight sum : Nat} {chars rest : List Char} {value : Nat}
    (found : number? bias place weight sum chars = some (value, rest)) : rest.length < chars.length := by
  induction chars generalizing place weight sum with
  | nil => cases found
  | cons c more ih =>
    unfold number? at found
    split at found
    · cases found
    · split at found
      · cases found
        simp
      · exact Nat.lt_succ_of_lt (ih found)

/-! ### Bounds -/

/-- A number made smaller for the next bound, and how often times thirty-six. -/
def lessen (delta steps : Nat) : Nat × Nat :=
  if 455 < delta then lessen (delta / 35) (steps + 36) else (delta, steps)
termination_by delta
decreasing_by exact Nat.div_lt_self (by omega) (by omega)

/-- What bounds the digits after a number, the first one or a later one, with so many characters. -/
def nextBias (delta : Nat) (isFirst : Bool) (count : Nat) : Nat :=
  let delta := if isFirst then delta / 700 else delta / 2
  let (delta, steps) := lessen (delta + delta / count) 0
  steps + 36 * delta / (delta + 38)

/-! ### Characters -/

/-- The code of a character, or that of a question mark if there is no such character. -/
def codeOr (code : Nat) : Nat :=
  if code ≤ 0x10FFFF then code else '?'.toNat

/-- The characters with those that numbers insert. A number counts on from the place after the last one
that was inserted, over all places and then over the next character. What follows a mistake is left out. -/
def insertAll (spelled : Spelled) (code place bias : Nat) (isFirst : Bool) (numbers : List Char) :
    Spelled :=
  match found : number? bias 0 1 0 numbers with
  | none => spelled
  | some (delta, rest) =>
    let count := spelled.length + 1
    let position := place + delta
    let code := codeOr (code + position / count)
    let place := position % count
    let spelled := spelled.take place ++ charOfValue? code :: spelled.drop place
    insertAll spelled code (place + 1) (nextBias delta isFirst count) false rest
termination_by numbers.length
decreasing_by exact number?_length found

/-! ### Texts -/

/-- The part before the last hyphen and the part after it, which is all if there is none. -/
def parts (bytes : List UInt8) : List UInt8 × List UInt8 :=
  let after := (bytes.reverse.takeWhile (· != 0x2D)).reverse
  (bytes.take (bytes.length - after.length - 1), after)

/-- The character of a byte below 0x80. -/
def plainChar? (byte : UInt8) : Option Char :=
  if byte.toNat < 0x80 then some (Char.ofNat byte.toNat) else none

/-- What bytes spell, if their numbers are written in ASCII. -/
def read? (bytes : List UInt8) : Option Spelled := do
  let (plain, numbers) := parts bytes
  let numbers ← numbers.mapM plainChar?
  return insertAll (plain.map plainChar?) 0x80 0 72 true numbers

end RouteCompiler.Text.Punycode
