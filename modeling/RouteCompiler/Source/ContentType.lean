/-
**What a content type says.**

A content type is a list of segments with semicolons between them, save those inside quotes. A segment is a
parameter: a name, an equals sign and a value. A parameter may be given in parts, whose names end in a star
and a number, and a part may be written with percent signs for bytes; a value with such a part may name the
charset of its bytes and a language before it, each with an apostrophe after it.

* `ContentType.parameters`: the names and values of a content type;
* `ContentType.hasMixedParts`: whether the parts of a parameter cannot be put in order;
* `ContentType.charsetName?`: the name of the charset of a text.
-/

import RouteCompiler.Text.Blank
import RouteCompiler.Text.Case
import RouteCompiler.Text.Charset
import RouteCompiler.Text.Digits

namespace RouteCompiler.ContentType

/-! ### Parameters -/

/-- The segments of a content type, after those characters of the first one that are read already, in
reverse. A quote that follows a backslash neither opens nor closes. -/
def segmentsFrom (quoted : Bool) (read : List Char) : List Char → List (List Char)
  | [] => [read.reverse]
  | c :: rest =>
    if c = ';' ∧ !quoted then read.reverse :: segmentsFrom false [] rest
    else segmentsFrom (if c = '"' ∧ read.head? ≠ some '\\' then !quoted else quoted) (c :: read) rest

/-- The name and the value of a parameter. -/
structure Parameter where
  name : String
  value : List Char
  deriving DecidableEq, Repr

/-- The parameter of a segment. -/
def Parameter.ofSegment (segment : List Char) : Parameter where
  name := Text.lower (Text.strip (String.ofList (segment.takeWhile (· != '='))))
  value := Text.trimmed Text.isBlank ((segment.dropWhile (· != '=')).drop 1)

/-- The names and values of a content type. -/
def parameters (contentType : String) : List Parameter :=
  (segmentsFrom false [] contentType.toList).map Parameter.ofSegment

/-! ### Parameters in parts -/

/-- A part of a parameter: its number, if it has one, its text, and whether bytes in it are written with
percent signs. -/
structure Part where
  number : Option Nat
  text : List Char
  isEncoded : Bool
  deriving DecidableEq, Repr

/-- A value without the quotes or angle brackets around it. -/
def unquoted (value : List Char) : List Char :=
  match value with
  | '"' :: second :: rest => if (second :: rest).getLast? = some '"' then (second :: rest).dropLast else value
  | '<' :: second :: rest => if (second :: rest).getLast? = some '>' then (second :: rest).dropLast else value
  | _ => value

/-- The part of a parameter that a parameter gives. -/
def Part.of? (name : String) (parameter : Parameter) : Option Part :=
  let (start, ending) := parameter.name.toList.span (· != '*')
  let (digits, after) := (ending.drop 1).span Char.isDigit
  if ending.isEmpty ∨ String.ofList start ≠ name then none
  else match digits, after with
  | [], [] => some ⟨none, unquoted parameter.value, true⟩
  | _ :: _, [] => some ⟨Text.readNatural? digits, unquoted parameter.value, false⟩
  | _ :: _, ['*'] => some ⟨Text.readNatural? digits, unquoted parameter.value, true⟩
  | _, _ => none

/-- Whether a text is a word: letters, digits and underscores. -/
def isWord (text : String) : Bool :=
  !text.isEmpty && text.toList.all fun c => c.isAlphanum || c == '_'

/-- Whether the parts of a parameter cannot be put in order: one has a number and another one has none. -/
def hasMixedParts (contentType : String) : Bool :=
  let rest := (parameters contentType).drop 1
  rest.any fun parameter =>
    let name := String.ofList (parameter.name.toList.takeWhile (· != '*'))
    let parts := rest.filterMap (Part.of? name)
    isWord name && parts.any (·.number.isNone) && parts.any (·.number.isSome)

/-- Whether a part comes before another or beside it: by their numbers, then by their texts. -/
def Part.precedes (first second : Part) : Bool :=
  let place := fun (part : Part) => part.number.getD 0
  decide (place first < place second) ||
    (place first == place second && decide (String.ofList first.text ≤ String.ofList second.text))

/-- A text with the characters for which percent signs and two digits stand. -/
def percentDecoded : List Char → List Char
  | '%' :: a :: b :: rest =>
    match Text.hexValue? a, Text.hexValue? b with
    | some high, some low => Char.ofNat (high * 16 + low) :: percentDecoded rest
    | _, _ => '%' :: percentDecoded (a :: b :: rest)
  | c :: rest => c :: percentDecoded rest
  | [] => []

/-- The text of a part. -/
def Part.chars (part : Part) : List Char :=
  if part.isEncoded then percentDecoded part.text else part.text

/-- The bytes of a text whose characters are all below U+0100. -/
def bytes? (chars : List Char) : Option (List UInt8) :=
  chars.mapM fun c => if c.toNat < 256 then some c.toNat.toUInt8 else none

/-- The text that bytes, given as characters, spell in the charset of a name, or the characters. -/
def decoded (charset value : List Char) : List Char :=
  let charset := if charset.isEmpty then some .ascii else Text.Charset.ofName? (String.ofList charset)
  let read := do
    let spelled ← ((← charset).decode (← bytes? value)).toOption
    spelled.strict?
  (read.map String.toList).getD value

/-- The value of a parameter in parts. -/
def joined (parts : List Part) : List Char :=
  let whole := (parts.mergeSort Part.precedes).flatMap Part.chars
  if parts.any Part.isEncoded then
    let (charset, rest) := whole.span (· != '\'')
    let (_, value) := (rest.drop 1).span (· != '\'')
    match value with
    | _ :: value => decoded charset value
    | [] => decoded [] whole
  else whole

/-! ### Charsets -/

/-- The value of the parameter that names a charset. One that is given whole counts before one that is
given in parts; the first segment is given whole. -/
def charsetValue? (contentType : String) : Option (List Char) :=
  let all := parameters contentType
  match all.find? fun parameter => parameter.name == "charset" with
  | some parameter => some parameter.value
  | none =>
    match (all.drop 1).filterMap (Part.of? "charset") with
    | [] => none
    | parts => some (joined parts)

/-- The name of the charset of a text. It has no characters from U+0080 on. -/
def charsetName? (contentType : String) : Option String :=
  ((charsetValue? contentType).filter fun value => value.all fun c => c.toNat < 0x80).map String.ofList

end RouteCompiler.ContentType
