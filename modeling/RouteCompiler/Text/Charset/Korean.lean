/-
**Charsets of Korean.**

A syllable or sign is two bytes. The larger charset holds all syllables; the smaller one holds those whose
bytes are both from 0xA1 on, and any other syllable may be written with its letters, of two bytes each,
after a filler. A third charset packs the three letters of a syllable into two bytes, and folds two rows of
signs into one first byte.

* `cp949Reading`: the larger charset;
* `eucKrReading`: the smaller one;
* `johabReading`: packed letters.
-/

import RouteCompiler.Text.Charset.Plane.Korean
import RouteCompiler.Text.Charset.Sequence

namespace RouteCompiler.Text

/-- What the bytes at the start of a text are in the larger charset. -/
def cp949Reading : UInt8 → List UInt8 → Reading :=
  .ofPair (Plane.char? Plane.korean)

/-! ### Syllables in letters -/

/-- The first byte of a letter. -/
def letterByte : UInt8 :=
  0xA4

/-- The second byte of the filler, which stands for no letter. -/
def fillerByte : UInt8 :=
  0xD4

/-- The place of a byte in a list of second bytes. -/
def placeOfByte? (bytes : List Nat) (byte : UInt8) : Option Nat :=
  bytes.findIdx? (· == byte.toNat)

/-- The second bytes of the letters that start a syllable. -/
def initialBytes : List Nat :=
  [0xA1, 0xA2, 0xA4, 0xA7, 0xA8, 0xA9, 0xB1, 0xB2, 0xB3, 0xB5, 0xB6, 0xB7, 0xB8, 0xB9, 0xBA, 0xBB,
    0xBC, 0xBD, 0xBE]

/-- The second bytes of the vowels. -/
def vowelBytes : List Nat :=
  (List.range 21).map (0xBF + ·)

/-- The second bytes of the letters that end a syllable, the filler first. -/
def finalBytes : List Nat :=
  [0xD4, 0xA1, 0xA2, 0xA3, 0xA4, 0xA5, 0xA6, 0xA7, 0xA9, 0xAA, 0xAB, 0xAC, 0xAD, 0xAE, 0xAF, 0xB0,
    0xB1, 0xB2, 0xB4, 0xB5, 0xB6, 0xB7, 0xB8, 0xBA, 0xBB, 0xBC, 0xBD, 0xBE]

/-- The syllable of three letters. -/
def syllable? (initial vowel final : UInt8) : Option Char := do
  let first ← placeOfByte? initialBytes initial
  let middle ← placeOfByte? vowelBytes vowel
  let last ← placeOfByte? finalBytes final
  return Char.ofNat (0xAC00 + (first * 21 + middle) * 28 + last)

/-- What the bytes after a filler are. -/
def lettersReading : List UInt8 → Reading
  | a :: initial :: b :: vowel :: c :: final :: _ =>
    if a = letterByte ∧ b = letterByte ∧ c = letterByte then .ofChar? 7 (syllable? initial vowel final)
    else .gap 0
  | _ => .short

/-! ### The smaller charset -/

/-- The character of two bytes in the smaller charset. -/
def eucKrChar? (first second : Nat) : Option Char :=
  if first < 0xA1 ∨ second < 0xA1 then none else Plane.char? Plane.korean first second

/-- What the bytes at the start of a text are in the smaller charset. -/
def eucKrReading (first : UInt8) (rest : List UInt8) : Reading :=
  match rest with
  | second :: more =>
    if first = letterByte ∧ second = fillerByte then lettersReading more
    else .ofPair eucKrChar? first rest
  | [] => .ofPair eucKrChar? first rest

/-! ### Packed letters -/

/-- A letter of a packed syllable: its place among the letters of its kind and what it is alone, or that
none is there. -/
inductive PackedLetter where
  /-- No letter. -/
  | absent
  /-- A letter. -/
  | letter (place : Nat) (alone : Char)
  deriving DecidableEq, Repr

/-- The letters of a kind by their codes. The codes start with the one for no letter; where a text has a
space, a code stands for nothing. -/
structure PackedLetters where
  firstCode : Nat
  chars : String
  deriving DecidableEq, Repr

/-- The letter with a code. -/
def PackedLetters.letter? (letters : PackedLetters) (code : Nat) : Option PackedLetter :=
  if code = letters.firstCode then some .absent
  else if code < letters.firstCode then none
  else
    let chars := letters.chars.toList
    let index := code - letters.firstCode - 1
    match chars[index]? with
    | none | some ' ' => none
    | some alone => some (.letter ((chars.take index).countP (· != ' ')) alone)

/-- The letters that start a syllable. -/
def packedInitials : PackedLetters :=
  ⟨1, "ㄱㄲㄴㄷㄸㄹㅁㅂㅃㅅㅆㅇㅈㅉㅊㅋㅌㅍㅎ"⟩

/-- The vowels. -/
def packedVowels : PackedLetters :=
  ⟨2, "ㅏㅐㅑㅒㅓ  ㅔㅕㅖㅗㅘㅙ  ㅚㅛㅜㅝㅞㅟ  ㅠㅡㅢㅣ"⟩

/-- The letters that end a syllable. -/
def packedFinals : PackedLetters :=
  ⟨1, "ㄱㄲㄳㄴㄵㄶㄷㄹㄺㄻㄼㄽㄾㄿㅀㅁ ㅂㅄㅅㅆㅇㅈㅊㅋㅌㅍㅎ"⟩

/-- The character of three letters: a syllable, one of them alone, or a wide space if there are none. -/
def packedChar? : PackedLetter → PackedLetter → PackedLetter → Option Char
  | .letter initial _, .letter vowel _, .absent => some (Char.ofNat (0xAC00 + (initial * 21 + vowel) * 28))
  | .letter initial _, .letter vowel _, .letter final _ =>
    some (Char.ofNat (0xAC00 + (initial * 21 + vowel) * 28 + final + 1))
  | .letter _ alone, .absent, .absent => some alone
  | .absent, .letter _ alone, .absent => some alone
  | .absent, .absent, .letter _ alone => some alone
  | .absent, .absent, .absent => some '\u3000'
  | _, _, _ => none

/-- The character of two bytes of packed letters. -/
def packedPair? (first second : Nat) : Option Char := do
  packedChar? (← packedInitials.letter? (first / 4 % 32)) (← packedVowels.letter? (first % 4 * 8 + second / 32))
    (← packedFinals.letter? (second % 32))

/-- The place of a second byte among those of a first byte, of which there are twice ninety-four. -/
def signPlace? (second : Nat) : Option Nat :=
  if 0x31 ≤ second ∧ second ≤ 0x7E then some (second - 0x31)
  else if 0x91 ≤ second ∧ second ≤ 0xFE then some (second - 0x43)
  else none

/-- The sign of two bytes. The rows of letters are left out. -/
def signPair? (first second : Nat) : Option Char := do
  let place ← signPlace? second
  if first = 0xD8 ∨ first = 0xDF ∨ 0xF9 < first ∨ (first = 0xDA ∧ 0xA1 ≤ second ∧ second ≤ 0xD3) then none
  else
    let row := (if first < 0xE0 then 2 * (first - 0xD9) else 2 * first - 0x197) + place / 94
    Plane.char? Plane.korean (row + 0xA1) (place % 94 + 0xA1)

/-- What the bytes at the start of a text are where letters are packed. -/
def johabReading : UInt8 → List UInt8 → Reading :=
  .ofPair fun first second => if first < 0xD8 then packedPair? first second else signPair? first second

end RouteCompiler.Text
