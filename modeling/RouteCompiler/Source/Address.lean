/-
**Addresses of servers.**

An address names a server after its scheme: a host and perhaps a port, and perhaps a user before an at sign.
A host is a name, four numbers with points between them, or groups of digits in square brackets. A name in
the script of a language is made of labels of its letters. What follows the server does not matter here.

* `Server.ofAddress`: the host and the port that an address names;
* `isAddress`: whether an address is well formed.
-/

import RouteCompiler.Text.Case
import RouteCompiler.Text.Digits
import RouteCompiler.Text.DomainLetters

namespace RouteCompiler.Source

/-- Whether a text holds another. -/
def holds (part : List Char) : List Char → Bool
  | [] => part.isEmpty
  | c :: rest => part.isPrefixOf (c :: rest) || holds part rest

/-! ### Hosts in numbers -/

/-- The parts of a text between the occurrences of a character. -/
def splitAt (separator : Char) : List Char → List (List Char)
  | [] => [[]]
  | c :: rest =>
    if c = separator then [] :: splitAt separator rest
    else
      match splitAt separator rest with
      | part :: parts => (c :: part) :: parts
      | [] => [[c]]

/-- Whether a part is a number below 256 without needless zeros. -/
def isOctet (part : List Char) : Bool :=
  !part.isEmpty && decide (part.length ≤ 3) && part.all Char.isDigit &&
    (part == ['0'] || part.head? != some '0') && decide ((Text.readNatural? part).getD 256 < 256)

/-- Whether a text is four numbers below 256 with points between them. -/
def isDotted (text : List Char) : Bool :=
  let parts := splitAt '.' text
  parts.length == 4 && parts.all isOctet

/-- Whether a part is one to four hexadecimal digits. -/
def isGroup (part : List Char) : Bool :=
  !part.isEmpty && decide (part.length ≤ 4) && part.all fun c => (Text.hexValue? c).isSome

/-- How many groups the parts of a text are. Four numbers at the end are two groups. -/
def groupCount? : List (List Char) → Option Nat
  | [] => some 0
  | [part] => if isGroup part then some 1 else if isDotted part then some 2 else none
  | part :: rest => if isGroup part then (groupCount? rest).map (· + 1) else none

/-- The text before the first pair of colons and the text after it. -/
def splitAtGap : List Char → Option (List Char × List Char)
  | ':' :: ':' :: rest => some ([], rest)
  | c :: rest => (splitAtGap rest).map fun (before, after) => (c :: before, after)
  | [] => none

/-- How many groups a side of a gap is. -/
def sideCount? (text : List Char) : Option Nat :=
  if text.isEmpty then some 0 else groupCount? (splitAt ':' text)

/-- Whether a text is eight groups with colons between them, or fewer with one gap. -/
def isGrouped (text : List Char) : Bool :=
  match splitAtGap text with
  | none => groupCount? (splitAt ':' text) == some 8
  | some (before, after) =>
    before.all (· != '.') &&
      match sideCount? before, sideCount? after with
      | some first, some second => decide (first + second ≤ 7)
      | _, _ => false

/-- Whether a text is groups, perhaps with the name of a zone after a percent sign. -/
def isZoned (text : List Char) : Bool :=
  let (groups, zone) := text.span (· != '%')
  isGrouped groups &&
    match zone with
    | [] => true
    | _ :: name => !name.isEmpty && name.all (· != '%')

/-! ### Hosts that look like four numbers -/

/-- Where a text may stand among four runs of digits with a character between them: at the start of a run,
for an even number, or inside one. -/
def nextPlaces (c : Char) (place : Nat) : List Nat :=
  (if c.isDigit then [place ||| 1] else []) ++ (if place % 2 = 1 ∧ place < 7 then [place + 1] else [])

/-- Whether a text is four runs of digits with any one character between each two. -/
def looksDotted (text : List Char) : Bool :=
  (text.foldl (fun places c => (places.flatMap (nextPlaces c)).eraseDups) [0]).contains 7

/-! ### Hosts in the script of a language -/

/-- The characters that separate the labels of a name. -/
def isLabelEnd (c : Char) : Bool :=
  c == '.' || c == '\u3002' || c == '\uff0e' || c == '\uff61'

/-- The syllables and signs of words between which a dot may stand. -/
def dottedRanges : List (Nat × Nat) :=
  [(0x3005, 0x3007), (0x3041, 0x309F), (0x30A1, 0x30FA), (0x30FD, 0x30FF), (0x31F0, 0x31FF),
    (0x3400, 0x9FFF), (0xF900, 0xFAFF), (0x20000, 0x3FFFF)]

/-- The letters of scripts that run from right to left. -/
def leftwardRanges : List (Nat × Nat) :=
  [(0x5D0, 0x65F), (0x66A, 0x6EF), (0x6FA, 0x8FF)]

/-- Whether a character may stand in a label. Dots inside words, and digits of scripts that run from right to
left, may do so beside the letters that they belong to. -/
def isLabelChar (label : List Char) (c : Char) : Bool :=
  Text.isDomainLetter c ||
    (c == '·' && holds ['l', '·', 'l'] label) ||
    (c == '・' && label.any (Text.inRanges dottedRanges)) ||
    (Text.inRanges [(0x660, 0x669)] c && (label.head?.map (Text.inRanges leftwardRanges)).getD false) ||
    Text.inRanges [(0x6F0, 0x6F9)] c

/-- Whether hyphens stand inside a label only, and not both at its third and fourth place. -/
def areHyphensInside (label : List Char) : Bool :=
  label.head? != some '-' && label.getLast? != some '-' && (label.drop 2).take 2 != ['-', '-']

/-- Whether a label is well formed: it is not empty, or is a name that is encoded already. -/
def isLabel (label : List Char) : Bool :=
  if "xn--".toList.isPrefixOf label ∧ label.all (fun c => c.isAlphanum || c == '-') then
    decide (4 < label.length) && label.getLast? != some '-'
  else
    !label.isEmpty && decide (label.length ≤ 63) && areHyphensInside label &&
      label.all (isLabelChar label)

/-- The labels of a name. A separator at the end separates nothing. -/
def labels (host : List Char) : List (List Char) :=
  let parts := splitAt '.' (host.map fun c => if isLabelEnd c then '.' else c)
  if parts.getLast? = some [] then parts.dropLast else parts

/-- Whether a name in the script of a language is well formed. -/
def isLocalName (host : List Char) : Bool :=
  let parts := labels (Text.lower (String.ofList host)).toList
  !parts.isEmpty && parts.all isLabel

/-! ### Servers -/

/-- The host and the port of a server. -/
structure Server where
  host : List Char
  port : List Char
  deriving DecidableEq, Repr

/-- The part of a text after the last occurrence of a character, or the whole text. -/
def afterLast (separator : Char) (text : List Char) : List Char :=
  (splitAt separator text).getLastD text

/-- The host in brackets at the start of a text, and what follows it. -/
def bracketed? (text : List Char) : Option (List Char × List Char) :=
  let after := afterLast ']' text
  if text.head? = some '[' ∧ after.length < text.length then
    some (text.take (text.length - after.length), after)
  else none

/-- The server that a text without the user names. -/
def Server.ofText (text : List Char) : Server :=
  let (host, rest) := (bracketed? text).getD (text.span (· != ':'))
  { host := host
    port := if rest.head? = some ':' then rest.drop 1 else rest }

/-- The part of an address between its scheme and its path. -/
def authority (address : List Char) : List Char :=
  ((address.dropWhile (· != ':')).drop 3).takeWhile fun c => c != '/' && c != '?' && c != '#'

/-- The server that an address names. -/
def Server.ofAddress (address : List Char) : Server :=
  Server.ofText (afterLast '@' (authority address))

/-- Whether a host is well formed. -/
def isHost (host : List Char) : Bool :=
  if looksDotted host then isDotted host
  else if host.head? = some '[' ∧ host.getLast? = some ']' then isZoned (host.drop 1).dropLast
  else host.all (fun c => c.toNat < 0x80) || isLocalName host

/-- Whether a port is left out or a number. -/
def isPort (port : List Char) : Bool :=
  port.isEmpty || (Text.readInteger? port).isSome

/-! ### Addresses -/

/-- The most characters of an address. -/
def addressLimit : Nat :=
  65536

/-- Whether a character is a control character below U+0080. -/
def isControl (c : Char) : Bool :=
  decide (c.toNat < 0x20) || c == '\x7f'

/-- Whether an address is well formed: it is not too long, holds no control characters, and names a
well-formed server. -/
def isAddress (address : String) : Bool :=
  let chars := address.toList
  let server := Server.ofAddress chars
  decide (chars.length ≤ addressLimit) && !chars.any isControl && isHost server.host &&
    isPort server.port

end RouteCompiler.Source
