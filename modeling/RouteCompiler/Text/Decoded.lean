/-
**Bytes as text.**

A file and standard input are UTF-8, and every line in them ends alike: a carriage return, alone or
before a line feed, is a line feed.

* `unifyLineEnds`: a text whose lines all end with a line feed;
* `decode?`: the text of bytes.
-/

namespace RouteCompiler.Text

/-- The characters of a text with a line feed at the end of each line. -/
def unifyLineEnds : List Char → List Char
  | [] => []
  | '\r' :: '\n' :: rest => '\n' :: unifyLineEnds rest
  | c :: rest => (if c = '\r' then '\n' else c) :: unifyLineEnds rest

/-- The text of bytes, if they are UTF-8. -/
def decode? (bytes : ByteArray) : Option String :=
  (String.fromUTF8? bytes).map fun text => String.ofList (unifyLineEnds text.toList)

end RouteCompiler.Text
