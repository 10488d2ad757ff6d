/-
**Characters of several bytes.**

Where a character is a byte or several, the bytes at the start of a text say how many it takes. What they
say may depend on a state that bytes before them have left. If they spell nothing the first of them is a
gap, and reading goes on with the second. If the text ends inside a character, all that is left is one gap;
but more than a few bytes are not kept until their character is complete, and then nothing is read.

* `Reading`: what the bytes at the start of a text are;
* `readFrom`, `readSequences`: what bytes spell, with a state and without one.
-/

import RouteCompiler.Text.Charset.Decoder

namespace RouteCompiler.Text

/-- What the bytes at the start of a text are. -/
inductive Reading where
  /-- They are read, with `more` bytes after the first. -/
  | read (spelled : Spelled) (more : Nat)
  /-- They are the start of a character that is cut off. -/
  | short
  /-- They are the start of a character that is cut off, and too many to be kept. -/
  | lost
  deriving DecidableEq, Repr

namespace Reading

/-- A character that takes `more` bytes after the first. -/
def char (c : Char) (more : Nat) : Reading :=
  .read [some c] more

/-- Bytes that spell nothing, `more` after the first. -/
def gap (more : Nat) : Reading :=
  .read [none] more

/-- The first byte is the character with its code. -/
def single (byte : Nat) : Reading :=
  .char (Char.ofNat byte) 0

/-- The bytes are a character, if there is one; if not, the first byte spells nothing. -/
def ofChar? (more : Nat) : Option Char → Reading
  | some c => .char c more
  | none => .gap 0

/-- The bytes are some characters, if there are any; if not, the first byte spells nothing. -/
def ofText? (more : Nat) : Option (List Char) → Reading
  | some chars => .read (chars.map some) more
  | none => .gap 0

/-- What two bytes are if the first one is no character by itself. -/
def ofTextPair (text? : Nat → Nat → Option (List Char)) (first : UInt8) (rest : List UInt8) : Reading :=
  if first.toNat < 0x80 then .single first.toNat
  else
    match rest with
    | [] => .short
    | second :: _ => .ofText? 1 (text? first.toNat second.toNat)

/-- What two bytes are if the first one is no character by itself, and both are one character. -/
def ofPair (char? : Nat → Nat → Option Char) : UInt8 → List UInt8 → Reading :=
  .ofTextPair fun first second => (char? first second).map fun c => [c]

end Reading

/-! ### Reading -/

variable {State : Type}

/-- What bytes spell from a state on, onto what they have spelled already in reverse. The first `skipped`
bytes belong to a character that is read. -/
def readFrom (next : State → UInt8 → List UInt8 → Reading × State) (state : State) (skipped : Nat)
    (done : Spelled) : List UInt8 → Option Spelled
  | [] => some done.reverse
  | byte :: rest =>
    match skipped with
    | skipped + 1 => readFrom next state skipped done rest
    | 0 =>
      match next state byte rest with
      | (.read spelled more, after) => readFrom next after more (spelled.reverse ++ done) rest
      | (.short, _) => some (none :: done).reverse
      | (.lost, _) => none

/-- What bytes spell where nothing depends on the bytes before. -/
def readSequences (next : UInt8 → List UInt8 → Reading) (bytes : List UInt8) : Option Spelled :=
  readFrom (fun _ byte rest => (next byte rest, ())) () 0 [] bytes

end RouteCompiler.Text
