/-
**Settings from a document.**

Each setting is read from a value of the document. A whole number may be written as a fractional one
without a fraction, as a truth value or as a text; a truth value as zero, one or one of a few words.
Everything that is wrong is reported: first the settings in their order, then the unknown names.

* `integerOfText`: the whole number that a text spells;
* `readInteger`, `readBoolean`, `splitTexts`: the value of one setting;
* `readDepth`, `readMediaTypes`: the same with the limits of the setting;
* `Settings.ofTree`: the settings of a document, or all that is wrong with it.
-/

import RouteCompiler.Settings.Basic
import RouteCompiler.Settings.Issue
import RouteCompiler.Text.Fraction
import RouteCompiler.Tree.Display

namespace RouteCompiler.Settings

/-! ### Whole numbers -/

/-- The value of a decimal digit from zero to nine. -/
def asciiDigit? (c : Char) : Option Nat :=
  if c.isDigit then some (c.toNat - 48) else none

/-- A text without a point and the zeros after it. At least one zero must follow, and nothing else. -/
def withoutZeroFraction? (chars : List Char) : Option (List Char) :=
  match chars.dropWhile (· != '.') with
  | [] => some chars
  | _ :: zeros =>
    if !zeros.isEmpty && zeros.all (· == '0') then some (chars.takeWhile (· != '.')) else none

/-- The digits of a number from the first one that is not zero. Of a number whose digits are all zero, the
last character stays. -/
def significantDigits (chars : List Char) : List Char :=
  if chars.head? = some '0' then
    match chars.dropWhile fun c => c == '0' || c == '_' with
    | [] => chars.getLast?.toList
    | rest => rest
  else chars

/-- The number that digits with single underscores between them spell. -/
def magnitudeOf (digits : List Char) : Except IssueKind Nat :=
  match Text.readNaturalIn? asciiDigit? 10 digits with
  | none => .error .unparsableInteger
  | some value => if Text.digitLimit < digits.countP (· != '_') then .error .integerTooLarge else .ok value

/-- The number of digits after a sign. Zeros at the start say nothing; after them the minus of a negative
number may stand. -/
def signedMagnitude (negative : Bool) (chars : List Char) : Except IssueKind Int :=
  match negative, significantDigits chars with
  | false, '-' :: digits =>
    if chars.head? = some '-' then .error .unparsableInteger
    else (magnitudeOf digits).map fun n => -(n : Int)
  | false, digits => (magnitudeOf digits).map Int.ofNat
  | true, digits => (magnitudeOf digits).map fun n => -(n : Int)

/-- The whole number that a text spells. -/
def integerOfText (text : String) : Except IssueKind Int :=
  match withoutZeroFraction? (Text.trimmed Text.isWhiteSpace text.toList) with
  | none => .error .unparsableInteger
  | some chars =>
    let (negative, rest) := Text.splitSign chars
    signedMagnitude negative rest

/-- The whole number that a fractional number is. It must have fewer than 64 bits. -/
def integerOfFloat : Binary64 → Except IssueKind Int
  | .nan => .error .notFinite
  | .infinite _ => .error .notFinite
  | value =>
    match value.toInteger? with
    | none => .error .fractionalInteger
    | some n => if n.natAbs < twoTo 63 then .ok n else .error .integerTooLarge

/-- The whole number that a value stands for. -/
def readInteger : Tree → Except IssueKind Int
  | .bool value => .ok (if value then 1 else 0)
  | .int value => .ok value
  | .float value => integerOfFloat value
  | .str text => integerOfText text
  | _ => .error .notAnInteger

/-- A depth: absent for all levels, or a whole number that is at least one. -/
def readDepth : Tree → Except IssueKind { depth : Option Int // ∀ d ∈ depth, 1 ≤ d }
  | .null => .ok ⟨none, by simp⟩
  | value => do
    let depth ← readInteger value
    if positive : 1 ≤ depth then return ⟨some depth, by simpa using positive⟩
    else throw .depthBelowOne

/-! ### Truth values -/

/-- The words for yes. -/
def trueWords : List String :=
  ["1", "t", "y", "true", "yes", "on"]

/-- The words for no. -/
def falseWords : List String :=
  ["0", "f", "n", "false", "no", "off"]

/-- The truth value that a text spells, in capitals or not. -/
def booleanOfText (text : String) : Except IssueKind Bool :=
  let word := String.ofList (text.toList.map Char.toLower)
  if word ∈ trueWords then .ok true
  else if word ∈ falseWords then .ok false
  else .error .unparsableBoolean

/-- The truth value that a whole number stands for. Numbers of more than 64 bits are of no use here. -/
def booleanOfInteger (value : Int) : Except IssueKind Bool :=
  if value = 0 then .ok false
  else if value = 1 then .ok true
  else if -(twoTo 63) ≤ value ∧ value < twoTo 63 then .error .unparsableBoolean
  else .error .notABoolean

/-- The truth value that a value stands for. -/
def readBoolean : Tree → Except IssueKind Bool
  | .bool value => .ok value
  | .int value => booleanOfInteger value
  | .float value =>
    match integerOfFloat value with
    | .ok n => booleanOfInteger n
    | .error _ => .error .notABoolean
  | .str text => booleanOfText text
  | _ => .error .notABoolean

/-! ### Lists of texts -/

/-- The texts of a list and the positions of the items that are none. -/
def splitTexts : (position : Nat) → List Tree → List String × List Nat
  | _, [] => ([], [])
  | position, .str text :: rest =>
    let (texts, wrong) := splitTexts (position + 1) rest
    (text :: texts, wrong)
  | position, _ :: rest =>
    let (texts, wrong) := splitTexts (position + 1) rest
    (texts, position :: wrong)

/-- A list of media types that is not empty. -/
def readMediaTypes (field : String) : Tree → Except (List Issue) { types : List String // types ≠ [] }
  | .list items =>
    match splitTexts 0 items with
    | ([], []) => .error [⟨[field], .noMediaType⟩]
    | (type :: types, []) => .ok ⟨type :: types, by simp⟩
    | (_, wrong) => .error (wrong.map fun position => ⟨[field, toString position], .notAText⟩)
  | _ => .error [⟨[field], .notAList⟩]

/-! ### Settings -/

/-- The value of a setting: read from its entry, or the default where there is none. -/
def readField {α : Type} (entries : Entries) (field : String) (otherwise : α)
    (read : Tree → Except (List Issue) α) : Except (List Issue) α :=
  match OrderedMap.get? entries (.str field) with
  | none => .ok otherwise
  | some value => read value

/-- A reader whose failure concerns a whole field. -/
def atField {α : Type} (field : String) (read : Tree → Except IssueKind α) (value : Tree) :
    Except (List Issue) α :=
  (read value).mapError fun kind => [⟨[field], kind⟩]

/-- What is wrong with the name of an entry. -/
def nameIssue? : Scalar → Option Issue
  | .str name => if name ∈ names then none else some ⟨[name], .unknownField⟩
  | .bool value => some ⟨[if value then "1" else "0"], .nameNotText⟩
  | key => some ⟨[key.display], .nameNotText⟩

/-- What is wrong with a value that was read. -/
def issuesOf {α : Type} : Except (List Issue) α → List Issue
  | .ok _ => []
  | .error issues => issues

/-- The settings of the entries of a document. -/
def ofEntries (entries : Entries) : Except (List Issue) Settings :=
  let depth := readField entries filterDepthName ⟨default.filterDepth, default.one_le_filterDepth⟩
    (atField filterDepthName readDepth)
  let strict := readField entries strictSchemasName default.strictSchemas
    (atField strictSchemasName readBoolean)
  let derive := readField entries deriveRequiredName default.deriveRequired
    (atField deriveRequiredName readBoolean)
  let types := readField entries jsonMediaTypesName ⟨default.jsonMediaTypes, default.jsonMediaTypes_ne_nil⟩
    (readMediaTypes jsonMediaTypesName)
  let unknown := (OrderedMap.keys entries).filterMap nameIssue?
  match depth, strict, derive, types, unknown with
  | .ok depth, .ok strict, .ok derive, .ok types, [] =>
    .ok ⟨depth.val, strict, derive, types.val, depth.property, types.property⟩
  | _, _, _, _, _ =>
    .error (issuesOf depth ++ issuesOf strict ++ issuesOf derive ++ issuesOf types ++ unknown)

/-- The settings of a document. -/
def ofTree : Tree → Except (List Issue) Settings
  | .map entries => ofEntries entries
  | _ => .error [⟨[], .notAnObject⟩]

end RouteCompiler.Settings
