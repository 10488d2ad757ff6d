/-
**The values of tagged texts.**

The tag of a scalar says how its text is read. A tag that is written may be given to any text, so the
readers accept more than the forms of texts without tags: signs after signs, digits of any script, numbers
without a point. A text that does not spell a value of its tag has none.

* `truthValue`, `integerValue`, `fractionValue`, `stampValue`, `bytesValue?`: the readers;
* `Tag.value?`: the value of a text with a standard tag.
-/

import RouteCompiler.Text.Base64
import RouteCompiler.Text.Case
import RouteCompiler.Yaml.Fault
import RouteCompiler.Yaml.Tag

namespace RouteCompiler.Yaml

/-- A result of a reader. -/
abbrev Reading (α : Type) := Except ValueFault α

/-- A value that is read from a text, if there is one. -/
def readingOf {α : Type} (text : String) (value? : Option α) : Reading α :=
  match value? with
  | some value => .ok value
  | none => .error (.malformed text)

/-! ### Truth values -/

/-- The words for yes. -/
def yesWords : List String :=
  ["yes", "true", "on"]

/-- The words for no. -/
def noWords : List String :=
  ["no", "false", "off"]

/-- The truth value that a word in any case stands for. -/
def truthValue (text : String) : Reading Bool :=
  let word := Text.lower text
  if word ∈ yesWords then .ok true
  else if word ∈ noWords then .ok false
  else .error (.unknownWord text)

/-! ### Whole numbers -/

/-- A text without its underscores. -/
def withoutUnderscores (text : String) : List Char :=
  text.toList.filter (· != '_')

/-- The number of digits after a sign, with its own sign if it has one. -/
def magnitude? : List Char → Option Int
  | ['0'] => some 0
  | '0' :: 'b' :: digits => Text.Base.binary.readInteger? digits
  | '0' :: 'x' :: digits => Text.Base.hexadecimal.readInteger? digits
  | '0' :: digits => Text.Base.octal.readInteger? ('0' :: digits)
  | digits => do
    let parts ← (partsAt ':' digits).mapM Text.readInteger?
    return parts.foldl (fun value part => value * 60 + part) 0

/-- The whole number that a text spells. There must be something besides underscores and a sign. -/
def integerValue (text : String) : Reading Int :=
  let chars := withoutUnderscores text
  let (negative, digits) := Text.splitSign chars
  if digits.isEmpty then .error .empty
  else (readingOf text (magnitude? digits)).map fun value => if negative then -value else value

/-! ### Fractional numbers -/

/-- The sum of digits in base sixty, the last digit first, onto what is summed up already. -/
def sumSixties (place : Nat) (sum : Binary64) : List Binary64 → Reading Binary64
  | [] => .ok sum
  | digit :: rest =>
    match Binary64.ofNatural? place with
    | some weight => sumSixties (place * 60) (sum.add (digit.multiply weight)) rest
    | none => .error .outOfRange

/-- The number of digits after a sign, with its own sign if it has one. -/
def fractionMagnitude (text : String) (chars : List Char) : Reading Binary64 :=
  if String.ofList chars = ".inf" then .ok (.infinite false)
  else if String.ofList chars = ".nan" then .ok .nan
  else do
    match ← readingOf text ((partsAt ':' chars).mapM Text.readFraction?) with
    | [value] => return value
    | parts => sumSixties 1 (.zero false) parts.reverse

/-- The fractional number that a text spells. There must be something besides underscores. -/
def fractionValue (text : String) : Reading Binary64 :=
  let chars := (withoutUnderscores text).map Char.toLower
  let (negative, digits) := Text.splitSign chars
  if chars.isEmpty then .error .empty
  else (fractionMagnitude text digits).map fun value => if negative then value.negate else value

/-! ### Other values -/

/-- The day or point in time that a text spells. -/
def stampValue (text : String) : Reading Stamp :=
  match stamp? 1 (withoutLastBreak text.toList) with
  | none => .error (.notATime text)
  | some stamp => readingOf text stamp

/-- The bytes that a text spells in base 64, if it does. -/
def bytesValue? (text : String) : Option (List UInt8) :=
  if text.toList.all fun c => decide (c.toNat < 0x80) then Text.decodeBase64? text.toList else none

/-- The value of a text with a standard tag. Nothing for the tags of collections and of special keys. -/
def Tag.value? (tag : Tag) (text : String) : Option (Except Fault Scalar) :=
  match tag with
  | .null => some (.ok .null)
  | .bool => some (((truthValue text).map Scalar.bool).mapError .noValue)
  | .int => some (((integerValue text).map Scalar.int).mapError .noValue)
  | .float => some (((fractionValue text).map Scalar.float).mapError .noValue)
  | .str => some (.ok (.str text))
  | .timestamp => some (((stampValue text).map Scalar.stamp).mapError .noValue)
  | .binary =>
    match bytesValue? text with
    | some content => some (.ok (.bytes content))
    | none => some (.error .invalidBytes)
  | .seq | .map | .omap | .pairs | .set | .merge | .value | .yaml => none

end RouteCompiler.Yaml
