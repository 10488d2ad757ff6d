/-
**Bytes read as characters.**

A text arrives as bytes, and a charset says what they spell. They are read one after the other by a machine
that keeps what it needs of the bytes before: the start of a character whose other bytes are still to come,
or the half of a pair. Where the bytes spell nothing a mark is read, or the whole text is refused.

* `Spelled`: what bytes spell, with gaps;
* `Spelled.lenient`, `Spelled.strict?`: the text with marks in the gaps, and the text without a gap;
* `Decoder`, `Decoder.run`: the machine, and what it reads.
-/

import RouteCompiler.Text.Surrogate

namespace RouteCompiler.Text

/-- What bytes spell in order: a character, or nothing. -/
abbrev Spelled := List (Option Char)

namespace Spelled

/-- The text with a mark for every gap. -/
def lenient (spelled : Spelled) : String :=
  String.ofList (spelled.map fun char => char.getD replacement)

/-- The text, if there is no gap. -/
def strict? (spelled : Spelled) : Option String :=
  (spelled.mapM id).map String.ofList

end Spelled

/-- A machine that reads bytes: what it keeps at first, what a byte completes, and what is left when no
byte follows. -/
structure Decoder (State : Type) where
  start : State
  step : State → UInt8 → Spelled × State
  finish : State → Spelled

namespace Decoder

variable {State : Type}

/-- What the machine reads from a state on, onto what it has read already in reverse. -/
def runFrom (decoder : Decoder State) (state : State) (done : Spelled) : List UInt8 → Spelled
  | [] => done.reverse ++ decoder.finish state
  | byte :: rest =>
    let (read, after) := decoder.step state byte
    decoder.runFrom after (read.reverse ++ done) rest

/-- What the machine reads. -/
def run (decoder : Decoder State) (bytes : List UInt8) : Spelled :=
  decoder.runFrom decoder.start [] bytes

/-- The machine that keeps nothing. -/
def bytewise (char? : UInt8 → Option Char) : Decoder Unit where
  start := ()
  step := fun _ byte => ([char? byte], ())
  finish := fun _ => []

end Decoder

end RouteCompiler.Text
