/-
**Binary floating-point numbers of 64 bits.**

A document's fractional numbers are kept to the precision of the IEEE 754 double format and, once read,
never computed with, so a value is stored as what it denotes: not a number, a signed infinity, or a sign
with `mantissa * 2 ^ exponent`. A decimal literal is read by one exact division of natural numbers,
rounded to the nearest value with ties to the even mantissa.

* `Binary64.ofRatio`: the value nearest to a positive quotient;
* `Binary64.ofDecimal`: the value nearest to `digits * 10 ^ scale`;
* `Binary64.add`, `Binary64.multiply`: the rounded sum and product, with which numbers in base sixty are
  read;
* `Binary64.isLess`: the order of the values;
* `Binary64.toInteger?`: the whole number that a value is, if it is one.
-/

import RouteCompiler.Number.Power

namespace RouteCompiler

/-- A number of the 64-bit binary floating-point format. -/
inductive Binary64 where
  /-- Not a number. -/
  | nan
  /-- An infinity with its sign. -/
  | infinite (negative : Bool)
  /-- The value `mantissa * 2 ^ exponent` with its sign. -/
  | finite (negative : Bool) (mantissa : Nat) (exponent : Int)
  deriving DecidableEq, Repr, Inhabited

namespace Binary64

/-- The exponent of the smallest subnormal number. -/
def minExponent : Int :=
  -1074

/-- The exponent of the largest finite numbers. -/
def maxExponent : Int :=
  971

/-- Zero with its sign. -/
def zero (negative : Bool) : Binary64 :=
  .finite negative 0 0

/-- Whether a value is a zero of either sign. -/
def isZero : Binary64 → Bool
  | .finite _ mantissa _ => mantissa == 0
  | _ => false

/-- The quotient rounded to the nearest integer, a half to the even neighbour. -/
def roundHalfEven (num den : Nat) : Nat :=
  let quotient := num / den
  let remainder := num % den
  if 2 * remainder < den then quotient
  else if 2 * remainder > den then quotient + 1
  else if quotient % 2 = 0 then quotient else quotient + 1

/-- The quotient `num / den` divided by `2 ^ exponent`, as a fraction of natural numbers. -/
def scaled (num den : Nat) (exponent : Int) : Nat × Nat :=
  if 0 ≤ exponent then (num, den * twoTo exponent.toNat) else (num * twoTo (-exponent).toNat, den)

/-- The finite value or infinity of a mantissa that rounding may have carried to 53 bits and one. -/
def ofRounded (negative : Bool) (mantissa : Nat) (exponent : Int) : Binary64 :=
  let carried := decide (mantissa ≥ twoTo 53)
  let exponent := if carried then exponent + 1 else exponent
  if mantissa = 0 then zero negative
  else if exponent > maxExponent then .infinite negative
  else .finite negative (if carried then mantissa / 2 else mantissa) exponent

/-- The value nearest to the positive quotient `num / den`. -/
def ofRatio (negative : Bool) (num den : Nat) : Binary64 :=
  let estimate := max ((num.log2 : Int) - den.log2 - 53) minExponent
  let (n, d) := scaled num den estimate
  let exponent := if n / d ≥ twoTo 53 then estimate + 1 else estimate
  let (n, d) := scaled num den exponent
  ofRounded negative (roundHalfEven n d) exponent

/-- The number of decimal digits of a positive number. -/
def decimalLength (n : Nat) : Nat :=
  (Nat.toDigits 10 n).length

/-- The value nearest to `digits * 10 ^ scale`. Beyond the range of the format the answer is known
from the number of digits alone, so no large power is computed. -/
def ofDecimal (negative : Bool) (digits : Nat) (scale : Int) : Binary64 :=
  if digits = 0 then zero negative
  else if (decimalLength digits : Int) + scale > 400 then .infinite negative
  else if (decimalLength digits : Int) + scale < -400 then zero negative
  else if 0 ≤ scale then ofRatio negative (digits * tenTo scale.toNat) 1
  else ofRatio negative digits (tenTo (-scale).toNat)

/-- The absolute value of a finite number as a fraction of natural numbers. -/
def ratio (mantissa : Nat) (exponent : Int) : Nat × Nat :=
  if 0 ≤ exponent then (mantissa * twoTo exponent.toNat, 1) else (mantissa, twoTo (-exponent).toNat)

/-- The value nearest to a whole number, unless that is too large for the format. -/
def ofNatural? (n : Nat) : Option Binary64 :=
  if n = 0 then some (zero false)
  else
    match ofRatio false n 1 with
    | .infinite _ => none
    | value => some value

/-! ### Arithmetic and order -/

/-- A value with the opposite sign. -/
def negate : Binary64 → Binary64
  | .nan => .nan
  | .infinite negative => .infinite !negative
  | .finite negative mantissa exponent => .finite (!negative) mantissa exponent

/-- The value nearest to `scaled * 2 ^ exponent`. A sum of zero is positive. -/
def ofScaled (scaled : Int) (exponent : Int) : Binary64 :=
  if scaled = 0 then zero false
  else
    let (num, den) := ratio scaled.natAbs exponent
    ofRatio (decide (scaled < 0)) num den

/-- A mantissa with its sign as a multiple of a power of two that is not above its own. -/
def aligned (negative : Bool) (mantissa : Nat) (exponent low : Int) : Int :=
  let size : Int := mantissa * twoTo (exponent - low).toNat
  if negative then -size else size

/-- Whether a value is less than another. What is not a number is neither less nor greater. -/
def isLess : Binary64 → Binary64 → Bool
  | .nan, _ => false
  | _, .nan => false
  | .infinite negative, .infinite other => negative && !other
  | .infinite negative, .finite .. => negative
  | .finite .., .infinite negative => !negative
  | .finite negative m e, .finite other n f =>
    decide (aligned negative m e (min e f) < aligned other n f (min e f))

/-- The rounded sum. Infinities of both signs have none. -/
def add : Binary64 → Binary64 → Binary64
  | .nan, _ => .nan
  | _, .nan => .nan
  | .infinite negative, .infinite other => if negative = other then .infinite negative else .nan
  | .infinite negative, .finite .. => .infinite negative
  | .finite .., .infinite negative => .infinite negative
  | .finite negative m e, .finite other n f =>
    if m = 0 ∧ n = 0 then zero (negative && other)
    else ofScaled (aligned negative m e (min e f) + aligned other n f (min e f)) (min e f)

/-- The rounded product. Zero and an infinity have none. -/
def multiply : Binary64 → Binary64 → Binary64
  | .nan, _ => .nan
  | _, .nan => .nan
  | .infinite negative, .infinite other => .infinite (negative != other)
  | .infinite negative, .finite other n _ => if n = 0 then .nan else .infinite (negative != other)
  | .finite negative m _, .infinite other => if m = 0 then .nan else .infinite (negative != other)
  | .finite negative m e, .finite other n f =>
    if m * n = 0 then zero (negative != other)
    else
      let (num, den) := ratio (m * n) (e + f)
      ofRatio (negative != other) num den

/-- The whole number that a value is, if it is one. -/
def toInteger? : Binary64 → Option Int
  | .finite negative mantissa exponent =>
    let (num, den) := ratio mantissa exponent
    if num % den = 0 then
      some (if negative then -((num / den : Nat) : Int) else ((num / den : Nat) : Int))
    else none
  | _ => none

end Binary64

end RouteCompiler
