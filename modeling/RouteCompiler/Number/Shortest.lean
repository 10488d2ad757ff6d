/-
**The shortest decimal that reads back.**

A finite positive number of the binary format is written with the fewest decimal digits among the
decimals that round to it, and among those the nearest. The reals that round to `m * 2 ^ e` form an
interval, closed exactly when `m` is even. For one, two, three ... digits the two neighbours of the
value on that decimal grid are tested against the interval in exact arithmetic; the first grid with a
hit wins.

* `Interval.contains`: the membership test, without division;
* `shortestDigits`: the digits and the position of the decimal point;
* `Binary64.text`: positional for decimal exponents from -4 to 15, with an exponent otherwise.
-/

import RouteCompiler.Number.Binary64

namespace RouteCompiler

namespace Shortest

/-- The reals that round to a number: `low / den` to `high / den`, with the ends when `closed`. The
number itself is `value / den`. -/
structure Interval where
  low : Nat
  value : Nat
  high : Nat
  den : Nat
  closed : Bool

/-- The interval of the positive number `mantissa * 2 ^ exponent`. Just above a power of two the
numbers below lie twice as dense, so the interval is shorter there on that side. -/
def Interval.around (mantissa : Nat) (exponent : Int) : Interval :=
  let below := if mantissa = twoTo 52 ∧ exponent > Binary64.minExponent then 1 else 2
  let (unit, den) := Binary64.ratio 1 exponent
  { low := (4 * mantissa - below) * unit
    value := 4 * mantissa * unit
    high := (4 * mantissa + 2) * unit
    den := 4 * den
    closed := mantissa % 2 == 0 }

/-- Whether `digits * 10 ^ scale` rounds to the number of the interval. -/
def Interval.contains (range : Interval) (digits : Nat) (scale : Int) : Bool :=
  let num := digits * tenTo scale.toNat * range.den
  let factor := tenTo (-scale).toNat
  if range.closed then decide (range.low * factor ≤ num) && decide (num ≤ range.high * factor)
  else decide (range.low * factor < num) && decide (num < range.high * factor)

/-- The position `p` of the decimal point: the value lies from `10 ^ (p - 1)` up to `10 ^ p`. -/
def Interval.point (range : Interval) : Int :=
  let estimate : Int :=
    (Binary64.decimalLength range.value : Int) - Binary64.decimalLength range.den
  if range.value * tenTo (-estimate).toNat < range.den * tenTo estimate.toNat then estimate
  else estimate + 1

/-- The neighbour of the value on the grid of step `10 ^ scale` that rounds to it and is nearest, a
tie going to the even digit. -/
def Interval.neighbour? (range : Interval) (scale : Int) : Option Nat :=
  let num := range.value * tenTo (-scale).toNat
  let den := range.den * tenTo scale.toNat
  let lower := num / den
  let twice := 2 * (num % den)
  match range.contains lower scale, range.contains (lower + 1) scale with
  | true, true =>
    if twice < den ∨ (twice = den ∧ lower % 2 = 0) then some lower else some (lower + 1)
  | true, false => some lower
  | false, true => some (lower + 1)
  | false, false => none

/-- The first grid with a hit, from `count` digits on; `more` further digits are tried. -/
def search (range : Interval) (point : Int) : Nat → Nat → Nat × Int
  | count, 0 => (range.value * tenTo (count - point).toNat / (range.den * tenTo (point - count).toNat),
      point - count)
  | count, more + 1 =>
    match range.neighbour? (point - count) with
    | some digits => (digits, point - count)
    | none => search range point (count + 1) more

/-- A decimal without zeros at its end. -/
def dropZeros : Nat → Nat → Int → Nat × Int
  | 0, digits, scale => (digits, scale)
  | fuel + 1, digits, scale =>
    if digits % 10 = 0 then dropZeros fuel (digits / 10) (scale + 1) else (digits, scale)

/-- The shortest decimal `digits * 10 ^ scale` that rounds to the positive number
`mantissa * 2 ^ exponent`. Seventeen digits always suffice. -/
def shortestDigits (mantissa : Nat) (exponent : Int) : Nat × Int :=
  let range := Interval.around mantissa exponent
  let (digits, scale) := search range range.point 1 17
  dropZeros 17 digits scale

end Shortest

namespace Binary64

/-- Digits with a decimal point after the first `point` of them; a whole number keeps `.0`. -/
def positional (digits : List Char) (point : Int) : List Char :=
  if point ≤ 0 then '0' :: '.' :: (List.replicate (-point).toNat '0' ++ digits)
  else
    let whole := digits.take point.toNat
    let rest := digits.drop point.toNat
    whole ++ List.replicate (point.toNat - whole.length) '0' ++
      '.' :: (if rest.isEmpty then ['0'] else rest)

/-- Digits with an exponent of a sign and at least two digits. -/
def scientific (digits : List Char) (exponent : Int) : List Char :=
  let magnitude := Nat.toDigits 10 exponent.natAbs
  let padded := if magnitude.length < 2 then '0' :: magnitude else magnitude
  let fraction := digits.drop 1
  digits.take 1 ++ (if fraction.isEmpty then [] else '.' :: fraction) ++
    'e' :: (if exponent < 0 then '-' else '+') :: padded

/-- The text of a positive finite number: positional when the decimal exponent lies from -4 to 15. -/
def positiveText (mantissa : Nat) (exponent : Int) : List Char :=
  let (value, scale) := Shortest.shortestDigits mantissa exponent
  let digits := Nat.toDigits 10 value
  let point := (digits.length : Int) + scale
  if -4 < point ∧ point ≤ 16 then positional digits point else scientific digits (point - 1)

/-- How the values without digits are spelt. -/
structure Spelling where
  nan : String
  infinity : String

/-- The shortest text that reads back, under a spelling of the values without digits. -/
def text (spelling : Spelling) : Binary64 → String
  | .nan => spelling.nan
  | .infinite negative => (if negative then "-" else "") ++ spelling.infinity
  | .finite negative mantissa exponent =>
    let unsigned := if mantissa = 0 then ['0', '.', '0'] else positiveText mantissa exponent
    (if negative then "-" else "") ++ String.ofList unsigned

/-- The spelling of document text. -/
def documentSpelling : Spelling :=
  ⟨"NaN", "Infinity"⟩

/-- The spelling of messages. -/
def messageSpelling : Spelling :=
  ⟨"nan", "inf"⟩

end Binary64

end RouteCompiler
