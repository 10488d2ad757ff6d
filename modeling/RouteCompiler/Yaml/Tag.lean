/-
**The tags of scalars.**

A tag says what a node stands for. A scalar that is written without quotes and without a tag has the tag of
the first form that its text is of: a truth value, a fractional number, a whole number, the merge key, the
absent value, a day or a point in time, the default key, or an indicator alone. Otherwise it is a text. A
line break at the end of the text does not count.

Whole numbers have a binary, octal, decimal, hexadecimal and a form in base sixty; fractional ones need a
point and, after an `e`, a signed exponent. Underscores between the digits are ignored.

* `Tag`: the standard tags;
* `truthWords`, `isFraction`, `isInteger`, `absentWords`: the forms;
* `stamp?`: the day or point in time that a text has the form of;
* `tagOfText`: the tag of a text without quotes.
-/

import RouteCompiler.Text.Fraction
import RouteCompiler.Tree.Basic

namespace RouteCompiler.Yaml

/-! ### Tags -/

/-- The full name of a tag of the standard set. -/
def standardTag (name : String) : String :=
  "tag:yaml.org,2002:" ++ name

/-- The standard tags. -/
inductive Tag where
  | null
  | bool
  | int
  | float
  | str
  | timestamp
  | binary
  | seq
  | map
  | omap
  | pairs
  | set
  | merge
  | value
  | yaml
  deriving DecidableEq, Repr

namespace Tag

/-- The standard tags in order. -/
def all : List Tag :=
  [.null, .bool, .int, .float, .str, .timestamp, .binary, .seq, .map, .omap, .pairs, .set, .merge, .value,
    .yaml]

/-- The last part of the name of a standard tag. -/
def shortName : Tag → String
  | .null => "null"
  | .bool => "bool"
  | .int => "int"
  | .float => "float"
  | .str => "str"
  | .timestamp => "timestamp"
  | .binary => "binary"
  | .seq => "seq"
  | .map => "map"
  | .omap => "omap"
  | .pairs => "pairs"
  | .set => "set"
  | .merge => "merge"
  | .value => "value"
  | .yaml => "yaml"

/-- The full name of a standard tag. -/
def fullName (tag : Tag) : String :=
  standardTag tag.shortName

/-- The standard tag with a full name. -/
def ofFullName? (name : String) : Option Tag :=
  all.find? fun tag => tag.fullName == name

end Tag

/-! ### Words -/

/-- The words for truth values. -/
def truthWords : List String :=
  ["yes", "Yes", "YES", "no", "No", "NO", "true", "True", "TRUE", "false", "False", "FALSE",
    "on", "On", "ON", "off", "Off", "OFF"]

/-- The words for the absent value. -/
def absentWords : List String :=
  ["~", "null", "Null", "NULL"]

/-- The indicators that are no text when they stand alone. -/
def loneIndicators : List String :=
  ["!", "&", "*"]

/-! ### Digits -/

/-- Whether a character is a decimal digit or an underscore. -/
def isDigitOrUnderscore (c : Char) : Bool :=
  c.isDigit || c == '_'

/-- Whether a text is a digit with digits and underscores after it. -/
def isDigitRun : List Char → Bool
  | [] => false
  | c :: rest => c.isDigit && rest.all isDigitOrUnderscore

/-- Whether a text is one or two digits that are less than sixty together. -/
def isSixtieth : List Char → Bool
  | [d] => d.isDigit
  | [t, d] => decide ('0' ≤ t ∧ t ≤ '5') && d.isDigit
  | _ => false

/-- The parts of a text between the marks. -/
def partsAt (mark : Char) : List Char → List (List Char)
  | [] => [[]]
  | c :: rest =>
    if c = mark then [] :: partsAt mark rest
    else
      match partsAt mark rest with
      | [] => [[c]]
      | first :: others => (c :: first) :: others

/-! ### Whole numbers -/

/-- Whether a text is not empty and holds characters of a class and underscores only. -/
def isRunOf (digit : Char → Bool) (chars : List Char) : Bool :=
  !chars.isEmpty && chars.all fun c => digit c || c == '_'

/-- Whether a character is a digit in base two. -/
def isBinaryDigit (c : Char) : Bool :=
  c == '0' || c == '1'

/-- Whether a character is a digit in base eight. -/
def isOctalDigit (c : Char) : Bool :=
  decide ('0' ≤ c ∧ c ≤ '7')

/-- Whether a character is a digit in base sixteen. -/
def isHexadecimalDigit (c : Char) : Bool :=
  (Text.hexValue? c).isSome

/-- Whether a text has the form of a whole number without a sign. -/
def isNatural : List Char → Bool
  | ['0'] => true
  | '0' :: 'b' :: digits => isRunOf isBinaryDigit digits
  | '0' :: 'x' :: digits => isRunOf isHexadecimalDigit digits
  | '0' :: digits => isRunOf isOctalDigit digits
  | chars =>
    match partsAt ':' chars with
    | [] => false
    | first :: others => isDigitRun first && others.all isSixtieth

/-- Whether a text has the form of a whole number. -/
def isInteger (chars : List Char) : Bool :=
  isNatural (Text.splitSign chars).2

/-! ### Fractional numbers -/

/-- Whether a text is an exponent with its sign, or empty. -/
def isExponent : List Char → Bool
  | [] => true
  | letter :: sign :: digits =>
    (letter == 'e' || letter == 'E') && (sign == '+' || sign == '-') && !digits.isEmpty &&
      digits.all Char.isDigit
  | _ => false

/-- Whether a text has the form of digits with a point, and with an exponent or not. Without digits before
the point it has no sign. -/
def isDecimalFraction (signed : Bool) (chars : List Char) : Bool :=
  let whole := chars.takeWhile (· != '.')
  match chars.dropWhile (· != '.') with
  | [] => false
  | _ :: after =>
    let places := after.takeWhile isDigitOrUnderscore
    isExponent (after.dropWhile isDigitOrUnderscore) &&
      (isDigitRun whole || (whole.isEmpty && !signed && isDigitRun places))

/-- Whether a text has the form of digits in base sixty, the last with a point. -/
def isSixtyFraction (chars : List Char) : Bool :=
  match (partsAt ':' chars).reverse with
  | last :: middle =>
    match middle.reverse, last.dropWhile (· != '.') with
    | first :: middle, _ :: places =>
      isDigitRun first && middle.all isSixtieth && isSixtieth (last.takeWhile (· != '.')) &&
        places.all isDigitOrUnderscore
    | _, _ => false
  | [] => false

/-- Whether a text has the form of a fractional number. -/
def isFraction (chars : List Char) : Bool :=
  let rest := (Text.splitSign chars).2
  let signed := decide (rest.length < chars.length)
  let word := String.ofList rest
  decide (word ∈ [".inf", ".Inf", ".INF"]) || (!signed && decide (word ∈ [".nan", ".NaN", ".NAN"])) ||
    isDecimalFraction signed rest || isSixtyFraction rest

/-! ### Days and points in time -/

/-- A number of at least `least` and at most `most` digits, and the text after it. -/
def digits? (least most : Nat) (chars : List Char) : Option (Nat × List Char) :=
  let digits := (chars.take most).takeWhile Char.isDigit
  if least ≤ digits.length then some (Text.naturalOfDigits digits, chars.drop digits.length) else none

/-- The text after a character. -/
def after? (c : Char) : List Char → Option (List Char)
  | [] => none
  | first :: rest => if first = c then some rest else none

/-- A year, a month and a day, and the text after them. -/
def day? (least : Nat) (chars : List Char) : Option (Date × List Char) := do
  let (year, rest) ← digits? 4 4 chars
  let (month, rest) ← digits? least 2 (← after? '-' rest)
  let (day, rest) ← digits? least 2 (← after? '-' rest)
  return (⟨year, month, day⟩, rest)

/-- The text after what separates a day from a clock reading: a letter or blanks. -/
def afterDay? : List Char → Option (List Char)
  | 'T' :: rest => some rest
  | 't' :: rest => some rest
  | chars =>
    let rest := chars.dropWhile fun c => c == ' ' || c == '\t'
    if rest.length < chars.length then some rest else none

/-- The microseconds of the digits after a point. Digits beyond the sixth are dropped. -/
def microseconds (digits : List Char) : Nat :=
  Text.naturalOfDigits ((digits ++ List.replicate 6 '0').take 6)

/-- The digits after a point if there is one, and the text after them. -/
def splitFraction : List Char → List Char × List Char
  | '.' :: rest => (rest.takeWhile Char.isDigit, rest.dropWhile Char.isDigit)
  | chars => ([], chars)

/-- The offset from universal time that the rest of a text spells, nothing if it is empty. -/
def offset? (chars : List Char) : Option (Option Int) :=
  match chars.dropWhile fun c => c == ' ' || c == '\t' with
  | [] => if chars.isEmpty then some none else none
  | ['Z'] => some (some 0)
  | sign :: rest => do
    if sign != '+' && sign != '-' then none
    let (hours, rest) ← digits? 1 2 rest
    let minutes ←
      match rest with
      | [] => some 0
      | _ => do
        let (minutes, rest) ← digits? 2 2 (← after? ':' rest)
        if rest.isEmpty then some minutes else none
    let total : Int := hours * 60 + minutes
    return some (if sign = '-' then -total else total)

/-- A clock reading that takes up the whole text. -/
def clock? (chars : List Char) : Option Clock := do
  let (hour, rest) ← digits? 1 2 chars
  let (minute, rest) ← digits? 2 2 (← after? ':' rest)
  let (second, rest) ← digits? 2 2 (← after? ':' rest)
  let (fraction, rest) := splitFraction rest
  let offset ← offset? rest
  return ⟨hour, minute, second, microseconds fraction, offset⟩

/-- The day or point in time that a text has the form of, if it has one: the stamp itself, or nothing
where the calendar or the clock has none. In a day alone, month and day have at least `least` digits. -/
def stamp? (least : Nat) (chars : List Char) : Option (Option Stamp) :=
  match day? least chars with
  | some (day, []) => some (Stamp.date? day)
  | _ => do
    let (day, rest) ← day? 1 chars
    let clock ← clock? (← afterDay? rest)
    return Stamp.dateTime? day clock

/-! ### Texts without quotes -/

/-- A text without a line break at its end. -/
def withoutLastBreak (chars : List Char) : List Char :=
  if chars.getLast? = some '\n' then chars.dropLast else chars

/-- The tag of a text of at least one character, which is given without a line break at its end. -/
def tagOfLine (chars : List Char) : Tag :=
  let line := String.ofList chars
  if line ∈ truthWords then .bool
  else if isFraction chars then .float
  else if isInteger chars then .int
  else if line = "<<" then .merge
  else if line ∈ absentWords then .null
  else if (stamp? 2 chars).isSome then .timestamp
  else if line = "=" then .value
  else if line ∈ loneIndicators then .yaml
  else .str

/-- The tag of a text that is written without quotes. -/
def tagOfText (text : String) : Tag :=
  if text.isEmpty then .null else tagOfLine (withoutLastBreak text.toList)

end RouteCompiler.Yaml
