/-
**Quoted scalars.**

A scalar in single quotes holds all characters as they are, a quote being written twice. In double
quotes a backslash starts an escape: one character for one, or two, four or eight hexadecimal digits
for a code point, or a line break that is dropped.

* `QuoteState`: what the next character means;
* `escaped?`: the character of an escape of one character;
* `quoteStep`: what becomes of the next character;
* `quotedFrom`: the rest of a scalar;
* `quotedScalar`: a scalar after its opening quote.
-/

import RouteCompiler.Text.Hex
import RouteCompiler.Text.Surrogate
import RouteCompiler.Yaml.Token.Gap

namespace RouteCompiler.Yaml

/-- What the next character of a quoted scalar means. An escape may have given the first half of a
character, which the next escape may complete. -/
inductive QuoteState where
  /-- Text follows, after white space that is held back. -/
  | text (gap : Gap)
  /-- Text follows, after the first half of a character. -/
  | half (high : Nat)
  /-- A quote follows that is part of the text. -/
  | doubled
  /-- The character of an escape follows. -/
  | escape (high : Option Nat)
  /-- Digits of a code point follow. -/
  | code (left value : Nat) (high : Option Nat)
  deriving Repr

/-- The character that an escape of one character stands for. -/
def escaped? (c : Char) : Option Char :=
  match c with
  | '0' => some '\x00'
  | 'a' => some '\x07'
  | 'b' => some '\x08'
  | 't' => some '\t'
  | '\t' => some '\t'
  | 'n' => some '\n'
  | 'v' => some '\x0b'
  | 'f' => some '\x0c'
  | 'r' => some '\r'
  | 'e' => some '\x1b'
  | ' ' => some ' '
  | '"' => some '"'
  | '\\' => some '\\'
  | '/' => some '/'
  | 'N' => some '\x85'
  | '_' => some '\xa0'
  | 'L' => some '\u2028'
  | 'P' => some '\u2029'
  | _ => none

/-- The number of hexadecimal digits that follow an escape for a code point. -/
def codeLength? (c : Char) : Option Nat :=
  match c with
  | 'x' => some 2
  | 'u' => some 4
  | 'U' => some 8
  | _ => none

/-- The characters read so far with the mark for half of a character, if there is one. -/
def pushHalf (high : Option Nat) (done : List Char) : List Char :=
  if high.isSome then Text.replacement :: done else done

/-- What becomes of a character: a state and the characters read so far, or the end of the scalar. -/
inductive QuoteStep where
  /-- The scalar goes on. -/
  | next (state : QuoteState) (done : List Char)
  /-- The scalar is closed. -/
  | closed (done : List Char)

/-- What follows a code point: the first half of a character is held back. -/
def afterCode (code : Nat) (high : Option Nat) (done : List Char) : Except Fault QuoteStep :=
  if 0x10FFFF < code then .error (.noValue (.noSuchCharacter code))
  else
    match high with
    | some half =>
      if Text.isLowSurrogate code then .ok (.next (.text .none) (Text.pairChar half code :: done))
      else .ok (afterWhole (pushHalf high done))
    | none => .ok (afterWhole done)
where
  afterWhole (done : List Char) : QuoteStep :=
    if Text.isHighSurrogate code then .next (.half code) done
    else .next (.text .none) (Text.charOfCode code :: done)

/-- What follows the first character of an escape: text, with a character added or not, or digits. -/
def afterEscape (c : Char) (high : Option Nat) (done : List Char) : Except Fault QuoteStep :=
  if isBreak c then .ok (.next (.text (.escaped [])) (pushHalf high done))
  else
    match escaped? c, codeLength? c with
    | some char, _ => .ok (.next (.text .none) (char :: pushHalf high done))
    | none, some length => .ok (.next (.code length 0 high) done)
    | none, none => .error (.unknownEscape c)

/-- What follows a digit of a code point: the next digit, or text. -/
def afterDigit (left value : Nat) (high : Option Nat) (c : Char) (done : List Char) :
    Except Fault QuoteStep :=
  match Text.hexValue? c with
  | none => .error (.unknownEscape c)
  | some digit =>
    let value := value * 16 + digit
    if left ≤ 1 then afterCode value high done else .ok (.next (.code (left - 1) value high) done)

/-- What follows a character of the text itself. The edge of a document may not come inside. -/
def afterText (quote : Char) (gap : Gap) (done : List Char) (mark : Mark) (rest : List Mark) :
    Except Fault QuoteStep :=
  if isEnd mark.char then .error .unterminatedText
  else if gap.isBroken && mark.column == 0 && atEdge (mark :: rest) then .error .separatorInText
  else if isBreak mark.char then .ok (.next (.text (gap.addBreak mark.char)) done)
  else if isBlank mark.char then .ok (.next (.text (gap.addBlank mark.char)) done)
  else if mark.char = quote then
    if quote = '\'' ∧ nextChar rest = '\'' then .ok (.next .doubled (gap.push done))
    else .ok (.closed (gap.push done))
  else if mark.char = '\\' ∧ quote = '"' then .ok (.next (.escape none) (gap.push done))
  else .ok (.next (.text .none) (mark.char :: gap.push done))

/-- What becomes of a character of a scalar in quotes, with what is read so far, the last character
first. -/
def quoteStep (quote : Char) (state : QuoteState) (done : List Char) (mark : Mark) (rest : List Mark) :
    Except Fault QuoteStep :=
  match state with
  | .text gap => afterText quote gap done mark rest
  | .half high =>
    if mark.char = '\\' then .ok (.next (.escape (some high)) done)
    else afterText quote .none (pushHalf (some high) done) mark rest
  | .doubled => .ok (.next (.text .none) (mark.char :: done))
  | .escape high => afterEscape mark.char high done
  | .code left value high => afterDigit left value high mark.char done

/-- The rest of a scalar in quotes. -/
def quotedFrom (quote : Char) (state : QuoteState) (done : List Char) : List Mark →
    Except Fault (List Char × List Mark)
  | [] => .error .unterminatedText
  | mark :: rest => do
    match ← quoteStep quote state done mark rest with
    | .next state done => quotedFrom quote state done rest
    | .closed done => return (done.reverse, rest)

/-- A scalar after its opening quote, and the text after its closing quote. -/
def quotedScalar (quote : Char) (rest : List Mark) : Except Fault (String × List Mark) := do
  let (chars, rest) ← quotedFrom quote (.text .none) [] rest
  return (String.ofList chars, rest)

end RouteCompiler.Yaml
