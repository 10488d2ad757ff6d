/-
**Fractional numbers written as text.**

A fractional number may be written with the decimal digits of any script, a sign, white space around it,
a point among the digits and an exponent after them. A point is not needed, nor are digits on both sides
of it. The values without digits are written as words, in capitals or not.

* `exponent?`: the exponent after the digits;
* `readFraction?`: the number that a text spells.
-/

import RouteCompiler.Number.Binary64
import RouteCompiler.Text.Digits

namespace RouteCompiler.Text

/-- A text with the decimal digits of any script as those from zero to nine. -/
def plainDigits (chars : List Char) : List Char :=
  chars.map fun c => ((digitValue? c).map fun value => Char.ofNat (48 + value)).getD c

/-- A sign, and whether it is a minus, with the text after it. -/
def splitSign : List Char → Bool × List Char
  | '-' :: rest => (true, rest)
  | '+' :: rest => (false, rest)
  | chars => (false, chars)

/-- The number of digits from zero to nine. -/
def naturalOfDigits (digits : List Char) : Nat :=
  digits.foldl (fun value c => value * 10 + (c.toNat - 48)) 0

/-- The words for an infinity. -/
def infinityWords : List String :=
  ["inf", "infinity"]

/-- The word for no number. -/
def nanWord : String :=
  "nan"

/-- An exponent: a letter, a sign that is optional, and digits. Nothing is an exponent of zero. -/
def exponent? : List Char → Option Int
  | [] => some 0
  | letter :: rest =>
    let (negative, digits) := splitSign rest
    if (letter == 'e' || letter == 'E') && !digits.isEmpty && digits.all Char.isDigit then
      some (if negative then -(naturalOfDigits digits : Int) else naturalOfDigits digits)
    else none

/-- The digits after a point, if there is one, and the text after them. -/
def splitPlaces : List Char → List Char × List Char
  | '.' :: rest => rest.span Char.isDigit
  | chars => ([], chars)

/-- The number of digits with a point and an exponent, without a sign. -/
def unsignedFraction? (negative : Bool) (chars : List Char) : Option Binary64 := do
  let (whole, rest) := chars.span Char.isDigit
  let (places, rest) := splitPlaces rest
  if whole.isEmpty && places.isEmpty then none
  let exponent ← exponent? rest
  return .ofDecimal negative (naturalOfDigits (whole ++ places)) (exponent - places.length)

/-- The fractional number that a text spells. -/
def readFraction? (chars : List Char) : Option Binary64 :=
  let (negative, rest) := splitSign (plainDigits (trimmed isWhiteSpace chars))
  let word := String.ofList (rest.map Char.toLower)
  if word ∈ infinityWords then some (.infinite negative)
  else if word = nanWord then some .nan
  else unsignedFraction? negative rest

end RouteCompiler.Text
