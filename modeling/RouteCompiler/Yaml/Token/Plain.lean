/-
**Plain scalars.**

A scalar without quotes ends before a colon that separates a key from its value, before a comment, at
a tab, before the edge of a document and where a line is indented too little. Inside brackets and
braces it also ends before their punctuation.

* `startsPlain`: whether a plain scalar can start with the next character;
* `endsPlain`: whether the next character cannot be part of a plain scalar;
* `plainScalar`: a plain scalar, with whether a line break follows it.
-/

import RouteCompiler.Yaml.Token.Gap

namespace RouteCompiler.Yaml

/-- The characters with a meaning of their own at the start of a token. -/
def indicators : List Char :=
  ['-', '?', ':', ',', '[', ']', '\x7b', '\x7d', '#', '&', '*', '!', '|', '>', '\'', '"', '%', '@', '\x60']

/-- The punctuation that ends a plain scalar inside brackets and braces. -/
def flowPunctuation : List Char :=
  [',', '?', '[', ']', '\x7b', '\x7d']

/-- The punctuation before which a colon ends a plain scalar inside brackets and braces. -/
def flowBrackets : List Char :=
  [',', '[', ']', '\x7b', '\x7d']

/-- Whether a plain scalar can start with the next character. -/
def startsPlain (inFlow : Bool) (rest : List Mark) : Bool :=
  let c := nextChar rest
  (!isSeparator c && !indicators.contains c) ||
    (!isSeparator (charAt rest 1) && (c == '-' || (!inFlow && (c == '?' || c == ':'))))

/-- Whether a colon followed by the character separates a key from its value. -/
def separatesAfterColon (inFlow : Bool) (next : Char) : Bool :=
  isSeparator next || (inFlow && flowBrackets.contains next)

/-- Whether a character with the text after it cannot be part of a plain scalar. -/
def endsPlain (inFlow : Bool) (c : Char) (rest : List Mark) : Bool :=
  isEnd c || c == '\t' || (c == ':' && separatesAfterColon inFlow (nextChar rest)) ||
    (inFlow && flowPunctuation.contains c)

/-- A plain scalar: its text, whether a line break follows it, and the text after it. -/
structure PlainScalar where
  text : String
  isBroken : Bool
  rest : List Mark

/-- A plain scalar that ends here. White space after it is no part of it. -/
def endPlain (gap : Gap) (done : List Char) (rest : List Mark) : PlainScalar :=
  ⟨String.ofList done.reverse, gap.isBroken, rest⟩

/-- The rest of a plain scalar, with what is read so far, the last character first. Lines must be
indented by at least `indent`, except inside brackets and braces. -/
def plainFrom (inFlow : Bool) (indent : Int) : Gap → (done : List Char) → List Mark → PlainScalar
  | gap, done, [] => endPlain gap done []
  | gap, done, mark :: rest =>
    if isBreak mark.char then plainFrom inFlow indent (gap.addBreak mark.char) done rest
    else if gap.isBroken && mark.column == 0 && atEdge (mark :: rest) then
      endPlain gap done (mark :: rest)
    else if mark.char = ' ' then plainFrom inFlow indent (gap.addBlank mark.char) done rest
    else if endsPlain inFlow mark.char rest then endPlain gap done (mark :: rest)
    else if !gap.isNone && (mark.char == '#' || (!inFlow && decide ((mark.column : Int) < indent))) then
      endPlain gap done (mark :: rest)
    else plainFrom inFlow indent .none (mark.char :: gap.push done) rest

/-- A plain scalar inside a collection with the given indentation. -/
def plainScalar (inFlow : Bool) (indent : Int) (rest : List Mark) : PlainScalar :=
  plainFrom inFlow (indent + 1) .none [] rest

end RouteCompiler.Yaml
