/-
**Tags and directives.**

A tag is written in full between angle brackets, or as a handle and a suffix, or as a lone exclamation
mark. A directive stands on a line of its own before a document and names the version of the format or
declares what a handle means; other directives say nothing. Inside tags, characters may be written as
bytes: a percent sign and two hexadecimal digits for each.

* `uri`: the longest run of characters that a tag is made of;
* `tagToken`: a tag after its exclamation mark;
* `directiveToken`: a directive after its percent sign.
-/

import RouteCompiler.Text.Digits
import RouteCompiler.Yaml.Mark
import RouteCompiler.Yaml.Token

namespace RouteCompiler.Yaml

/-! ### Characters -/

/-- Whether a character may be part of a name. -/
def isNameChar (c : Char) : Bool :=
  c.isAlphanum || c == '-' || c == '_'

/-- The punctuation that a tag may hold. -/
def tagPunctuation : List Char :=
  ['-', ';', '/', '?', ':', '@', '&', '=', '+', '$', ',', '_', '.', '!', '~', '*', '\'', '(', ')', '[', ']']

/-- Whether a character may be part of a tag as it is. -/
def isTagChar (c : Char) : Bool :=
  c.isAlphanum || tagPunctuation.contains c

/-- The characters read so far, the last first, with those that bytes stand for, the last byte first. -/
def pushBytes (fault : Fault) (bytes : List UInt8) (done : List Char) : Except Fault (List Char) :=
  match String.fromUTF8? ⟨bytes.reverse.toArray⟩ with
  | some text => .ok (text.toList.reverse ++ done)
  | none => .error fault

/-- The run of characters of a tag after what is read so far. Bytes are held back until all bytes of a
character are read. -/
def uriFrom (fault : Fault) (bytes : List UInt8) (done : List Char) : List Mark →
    Except Fault (List Char × List Mark)
  | [] => do return (← pushBytes fault bytes done, [])
  | mark :: rest =>
    if mark.char = '%' then
      match rest with
      | first :: second :: rest =>
        match Text.hexValue? first.char, Text.hexValue? second.char with
        | some high, some low => uriFrom fault ((high * 16 + low).toUInt8 :: bytes) done rest
        | _, _ => .error fault
      | _ => .error fault
    else do
      let done ← pushBytes fault bytes done
      if isTagChar mark.char then uriFrom fault [] (mark.char :: done) rest
      else return (done, mark :: rest)

/-- The longest run of characters of a tag, and the text after it. It must not be empty. -/
def uri (fault : Fault) (rest : List Mark) : Except Fault (String × List Mark) := do
  let (chars, rest) ← uriFrom fault [] [] rest
  if chars.isEmpty then throw fault
  return (String.ofList chars.reverse, rest)

/-! ### Tags -/

/-- A handle after its exclamation mark, and the text after the second one. -/
def tagHandle (fault : Fault) (rest : List Mark) : Except Fault (String × List Mark) :=
  let after := dropChars isNameChar rest
  if nextChar after = '!' then
    .ok (String.ofList ('!' :: (takeChars isNameChar rest ++ ['!'])), after.drop 1)
  else .error fault

/-- A tag after its exclamation mark, and the text after it. A second exclamation mark in the same word
ends a handle. -/
def tagToken (rest : List Mark) : Except Fault (Token × List Mark) := do
  if nextChar rest = '<' then
    let (name, rest) ← uri .invalidTag (rest.drop 1)
    if nextChar rest != '>' then throw .invalidTag
    return (.tag none name, rest.drop 1)
  else if isSeparator (nextChar rest) then return (.tag none "!", rest)
  else
    let (handle, rest) ←
      if (takeChars (fun c => !isSpaceOrLineEnd c) rest).contains '!' then tagHandle .invalidTag rest
      else .ok ("!", rest)
    let (suffix, rest) ← uri .invalidTag rest
    return (.tag (some handle) suffix, rest)

/-! ### Directives -/

/-- The text after spaces. -/
def afterSpaces (rest : List Mark) : List Mark :=
  dropChars (· == ' ') rest

/-- A number in decimal digits, and the text after it. -/
def versionNumber (rest : List Mark) : Except Fault (Nat × List Mark) := do
  let digits := takeChars Char.isDigit rest
  if digits.isEmpty then throw .invalidDirective
  match Text.readNatural? digits with
  | some value => return (value, dropChars Char.isDigit rest)
  | none => throw (.noValue (.malformed (String.ofList digits)))

/-- The version of the format: two numbers with a point between them. -/
def versionToken (rest : List Mark) : Except Fault (Token × List Mark) := do
  let (major, rest) ← versionNumber (afterSpaces rest)
  if nextChar rest != '.' then throw .invalidDirective
  let (_, rest) ← versionNumber (rest.drop 1)
  if !isSpaceOrLineEnd (nextChar rest) then throw .invalidDirective
  return (.version major, rest)

/-- A handle that is declared, which may be a lone exclamation mark, and the text after it. -/
def declaredHandle (rest : List Mark) : Except Fault (String × List Mark) := do
  if nextChar rest != '!' then throw .invalidDirective
  let (handle, rest) ←
    if charAt rest 1 = ' ' then .ok ("!", rest.drop 1) else tagHandle .invalidDirective (rest.drop 1)
  if nextChar rest != ' ' then throw .invalidDirective
  return (handle, rest)

/-- What a handle means: the start of a tag. -/
def handleToken (rest : List Mark) : Except Fault (Token × List Mark) := do
  let (handle, rest) ← declaredHandle (afterSpaces rest)
  let (meaning, rest) ← uri .invalidDirective (afterSpaces rest)
  if !isSpaceOrLineEnd (nextChar rest) then throw .invalidDirective
  return (.handle handle meaning, rest)

/-- The text after the rest of a line, which may hold a comment only. -/
def afterDirective (rest : List Mark) : Except Fault (List Mark) := do
  let rest := afterSpaces rest
  let rest := if nextChar rest = '#' then dropChars (fun c => !isLineEnd c) rest else rest
  if !isLineEnd (nextChar rest) then throw .invalidDirective
  return if isBreak (nextChar rest) then rest.drop 1 else rest

/-- A directive after its percent sign, and the text after its line. -/
def directiveToken (rest : List Mark) : Except Fault (Token × List Mark) := do
  let name := String.ofList (takeChars isNameChar rest)
  let rest := dropChars isNameChar rest
  if name.isEmpty || !isSpaceOrLineEnd (nextChar rest) then throw .invalidDirective
  let (token, rest) ←
    if name = "YAML" then versionToken rest
    else if name = "TAG" then handleToken rest
    else .ok (.directive, dropChars (fun c => !isLineEnd c) rest)
  return (token, ← afterDirective rest)

end RouteCompiler.Yaml
