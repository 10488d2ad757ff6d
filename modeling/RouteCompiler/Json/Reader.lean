/-
**JSON text as documents.**

The reader goes through a text from left to right and stops at the first character that cannot be part
of a document. A failure names what was expected and the place, as an offset in characters and as a
line and a column. Beside the values of the JSON standard the names `NaN`, `Infinity` and `-Infinity`
are read. A repeated key of an object keeps its first place and its last value.

* `Fault`, `ReadError`: what can go wrong and where;
* `readString`, `readNumber?`: the two kinds of token with an inner structure;
* `read`: the document of a text;
* `ReadError.text`: the message of a failure.
-/

import RouteCompiler.Text.Digits
import RouteCompiler.Text.Hex
import RouteCompiler.Text.Surrogate
import RouteCompiler.Tree.Entries

namespace RouteCompiler.Json

/-! ### Failures -/

/-- Why a text is not a JSON document. -/
inductive Fault where
  /-- The text starts with a byte order mark. -/
  | byteOrderMark
  /-- A value should start here. -/
  | expectedValue
  /-- A quoted name of a member should start here. -/
  | expectedName
  /-- A colon should follow the name of a member. -/
  | expectedColon
  /-- A comma should follow a member. -/
  | expectedComma
  /-- Something follows the document. -/
  | extraData
  /-- The text that starts here is not closed. -/
  | unterminatedText
  /-- A control character stands in a quoted text. -/
  | controlCharacter
  /-- A backslash is followed by a character that is no escape. -/
  | invalidEscape
  /-- Four hexadecimal digits should follow. -/
  | invalidCodeEscape
  /-- A whole number has more digits than are read. -/
  | numberTooLong
  /-- Too many objects and arrays are inside each other. -/
  | tooDeep
  deriving DecidableEq, Repr

/-- What a failure says was wrong. -/
def Fault.text : Fault → String
  | .byteOrderMark => "Unexpected UTF-8 BOM (decode using utf-8-sig)"
  | .expectedValue => "Expecting value"
  | .expectedName => "Expecting property name enclosed in double quotes"
  | .expectedColon => "Expecting ':' delimiter"
  | .expectedComma => "Expecting ',' delimiter"
  | .extraData => "Extra data"
  | .unterminatedText => "Unterminated string starting at"
  | .controlCharacter => "Invalid control character at"
  | .invalidEscape => "Invalid \\escape"
  | .invalidCodeEscape => "Invalid \\uXXXX escape"
  | .numberTooLong => "Exceeds the limit for the digits of a whole number"
  | .tooDeep => "Too many objects and arrays inside each other"

/-- Whether a fault breaks no rule of the format: the text is beyond what can be read. -/
def Fault.isUnexpected : Fault → Bool
  | .numberTooLong => true
  | .tooDeep => true
  | _ => false

/-- A fault with its place: the offset in characters from the start, the line and the column. -/
structure ReadError where
  fault : Fault
  offset : Nat
  line : Nat
  column : Nat
  deriving DecidableEq, Repr

/-- The message of a failure. -/
def ReadError.text (error : ReadError) : String :=
  error.fault.text ++ ": line " ++ toString error.line ++ " column " ++ toString error.column ++
    " (char " ++ toString error.offset ++ ")"

/-- The failure at an offset of a text. Lines and columns count from one. -/
def ReadError.at (fault : Fault) (chars : List Char) (offset : Nat) : ReadError :=
  let before := chars.take offset
  { fault := fault
    offset := offset
    line := before.count '\n' + 1
    column := (before.reverse.takeWhile (· != '\n')).length + 1 }

/-- A fault and how many characters are left where it is found. -/
abbrev Refusal := Fault × Nat

/-! ### Tokens -/

/-- The characters that may stand between tokens. -/
def isSpace (c : Char) : Bool :=
  c == ' ' || c == '\t' || c == '\n' || c == '\r'

/-- The characters after any white space. -/
def skipSpace (chars : List Char) : List Char :=
  chars.dropWhile isSpace

/-- The character that an escape other than a code stands for. -/
def escaped? : Char → Option Char
  | '"' => some '"'
  | '\\' => some '\\'
  | '/' => some '/'
  | 'b' => some '\x08'
  | 'f' => some '\x0c'
  | 'n' => some '\n'
  | 'r' => some '\r'
  | 't' => some '\t'
  | _ => none

/-- The value of four hexadecimal digits. -/
def code? (a b c d : Char) : Option Nat := do
  let a ← Text.hexValue? a
  let b ← Text.hexValue? b
  let c ← Text.hexValue? c
  let d ← Text.hexValue? d
  return ((a * 16 + b) * 16 + c) * 16 + d

/-- The characters of a quoted text after its opening quote, onto those read already in reverse.
`opening` counts the characters from the opening quote on, the place of a text that is not closed. An
escape by code is read only if something follows it, as the closing quote must. -/
def readString (opening : Nat) : List Char → List Char → Except Refusal (String × List Char)
  | [], _ => .error (.unterminatedText, opening)
  | '"' :: rest, read => .ok (String.ofList read.reverse, rest)
  | ['\\'], _ => .error (.unterminatedText, opening)
  | '\\' :: 'u' :: a :: b :: c :: d :: '\\' :: 'u' :: e :: f :: g :: h :: last :: rest, read =>
    match code? a b c d with
    | none => .error (.invalidCodeEscape, rest.length + 12)
    | some high =>
      if Text.isHighSurrogate high then
        match code? e f g h with
        | none => .error (.invalidCodeEscape, rest.length + 6)
        | some low =>
          if Text.isLowSurrogate low then readString opening (last :: rest) (Text.pairChar high low :: read)
          else
            readString opening ('\\' :: 'u' :: e :: f :: g :: h :: last :: rest) (Text.charOfCode high :: read)
      else
        readString opening ('\\' :: 'u' :: e :: f :: g :: h :: last :: rest) (Text.charOfCode high :: read)
  | '\\' :: 'u' :: a :: b :: c :: d :: next :: rest, read =>
    match code? a b c d with
    | none => .error (.invalidCodeEscape, rest.length + 6)
    | some code => readString opening (next :: rest) (Text.charOfCode code :: read)
  | '\\' :: 'u' :: rest, _ => .error (.invalidCodeEscape, rest.length + 1)
  | '\\' :: c :: rest, read =>
    match escaped? c with
    | some char => readString opening rest (char :: read)
    | none => .error (.invalidEscape, rest.length + 2)
  | c :: rest, read =>
    if c.toNat < 0x20 then .error (.controlCharacter, rest.length + 1)
    else readString opening rest (c :: read)
termination_by chars => chars.length

/-- The digits at the start of a text, and the rest. -/
def digits (chars : List Char) : List Char × List Char :=
  chars.span Char.isDigit

/-- The number that decimal digits write. -/
def decimal (digits : List Char) : Nat :=
  digits.foldl (fun value c => value * 10 + (c.toNat - 48)) 0

/-- The whole part of a number: a zero alone or digits that start with another one. -/
def wholePart? : List Char → Option (List Char × List Char)
  | '0' :: rest => some (['0'], rest)
  | c :: rest => if c.isDigit then some (digits (c :: rest)) else none
  | [] => none

/-- The fraction of a number: a point and at least one digit, or nothing. -/
def fraction : List Char → List Char × List Char
  | '.' :: rest => if (digits rest).1.isEmpty then ([], '.' :: rest) else digits rest
  | chars => ([], chars)

/-- The exponent of a number: a letter, an optional sign and at least one digit, or nothing. -/
def exponent? (chars : List Char) : Option (Int × List Char) :=
  match chars with
  | c :: rest =>
    if c = 'e' ∨ c = 'E' then
      let (negative, unsigned) :=
        match rest with
        | '-' :: more => (true, more)
        | '+' :: more => (false, more)
        | more => (false, more)
      let (found, after) := digits unsigned
      if found.isEmpty then none
      else some (if negative then -(decimal found : Int) else (decimal found : Int), after)
    else none
  | [] => none

/-- A number at the start of a text, if there is one. With a fraction or an exponent it is a
fractional number, otherwise a whole one. -/
def readNumber? (chars : List Char) : Option (Except Refusal (Tree × List Char)) :=
  let (negative, unsigned) :=
    match chars with
    | '-' :: rest => (true, rest)
    | rest => (false, rest)
  match wholePart? unsigned with
  | none => none
  | some (whole, afterWhole) =>
    let (places, afterFraction) := fraction afterWhole
    match places, exponent? afterFraction with
    | [], none =>
      if whole.length > Text.digitLimit then some (.error (.numberTooLong, chars.length))
      else
        let value : Int := decimal whole
        some (.ok (.int (if negative then -value else value), afterWhole))
    | places, exponent =>
      let (power, rest) := exponent.getD (0, afterFraction)
      some (.ok (.float (Binary64.ofDecimal negative (decimal (whole ++ places))
        (power - places.length)), rest))

/-- The values written as a word, with the word. -/
def words : List (List Char × Scalar) :=
  [("null".toList, .null), ("true".toList, .bool true), ("false".toList, .bool false),
    ("NaN".toList, .float .nan), ("Infinity".toList, .float (.infinite false)),
    ("-Infinity".toList, .float (.infinite true))]

/-- A value written as a word at the start of a text. -/
def readWord? (chars : List Char) : Option (Scalar × List Char) :=
  words.findSome? fun entry =>
    if entry.1.isPrefixOf chars then some (entry.2, chars.drop entry.1.length) else none

/-! ### Documents -/

/-- The most objects and arrays that may be inside each other. JSON sets no such bound: it is where a reader with a
stack of a thousand calls was seen to give up, and a stack of another size has another bound. What is done with a
document that has been read is not bounded at all. -/
def depthLimit : Nat :=
  990

mutual

/-- A value at the start of a text, inside `depth` others. The first argument bounds the steps. -/
def readValue : Nat → (depth : Nat) → List Char → Except Refusal (Tree × List Char)
  | 0, _, chars => .error (.expectedValue, chars.length)
  | fuel + 1, depth, chars =>
    match chars with
    | '"' :: rest => do
      let (text, after) ← readString chars.length rest []
      return (.str text, after)
    | '\x7b' :: rest =>
      if depthLimit ≤ depth then .error (.tooDeep, chars.length)
      else
        match skipSpace rest with
        | '\x7d' :: after => .ok (.map [], after)
        | inside => do
          let (entries, after) ← readMembers fuel (depth + 1) inside
          return (.map (OrderedMap.ofList entries), after)
    | '[' :: rest =>
      if depthLimit ≤ depth then .error (.tooDeep, chars.length)
      else
        match skipSpace rest with
        | ']' :: after => .ok (.list [], after)
        | inside => do
          let (items, after) ← readItems fuel (depth + 1) inside
          return (.list items, after)
    | _ =>
      match readWord? chars with
      | some (value, after) => .ok (.scalar value, after)
      | none => (readNumber? chars).getD (.error (.expectedValue, chars.length))

/-- The members of an object from the name of one on. -/
def readMembers : Nat → (depth : Nat) → List Char →
    Except Refusal (List (Scalar × Tree) × List Char)
  | 0, _, chars => .error (.expectedName, chars.length)
  | fuel + 1, depth, chars =>
    match chars with
    | '"' :: rest => do
      let (name, afterName) ← readString chars.length rest []
      match skipSpace afterName with
      | ':' :: afterColon => do
        let (value, afterValue) ← readValue fuel depth (skipSpace afterColon)
        match skipSpace afterValue with
        | '\x7d' :: after => return ([(.str name, value)], after)
        | ',' :: next => do
          let (entries, after) ← readMembers fuel depth (skipSpace next)
          return ((.str name, value) :: entries, after)
        | other => .error (.expectedComma, other.length)
      | other => .error (.expectedColon, other.length)
    | other => .error (.expectedName, other.length)

/-- The items of an array from the start of one on. -/
def readItems : Nat → (depth : Nat) → List Char → Except Refusal (List Tree × List Char)
  | 0, _, chars => .error (.expectedValue, chars.length)
  | fuel + 1, depth, chars => do
    let (item, afterItem) ← readValue fuel depth chars
    match skipSpace afterItem with
    | ']' :: after => return ([item], after)
    | ',' :: next => do
      let (items, after) ← readItems fuel depth (skipSpace next)
      return (item :: items, after)
    | other => .error (.expectedComma, other.length)

end

/-- The document of the characters of a text. A bracket takes at most two steps and a member one, so twice
the number of characters bounds the steps. -/
def readChars (chars : List Char) : Except Refusal Tree :=
  match chars with
  | '\uFEFF' :: rest => .error (.byteOrderMark, rest.length + 1)
  | _ => do
    let (value, after) ← readValue (2 * chars.length + 2) 0 (skipSpace chars)
    match skipSpace after with
    | [] => return value
    | other => .error (.extraData, other.length)

/-- The document of a text. -/
def read (text : String) : Except ReadError Tree :=
  match readChars text.toList with
  | .ok value => .ok value
  | .error (fault, left) => .error (.at fault text.toList (text.toList.length - left))

end RouteCompiler.Json
