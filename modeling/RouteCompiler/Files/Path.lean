/-
**Paths of files.**

A path is read from a text in its plain form: empty parts and parts that are a single point say nothing
and are left out, while a part of two points is kept, because only the file system knows what it leads
to. A leading slash makes a path absolute, and two of them are kept apart from one.

* `Path`: where a path starts and its parts;
* `Path.ofText`, `Path.text`: a path and its spelling;
* `Path.suffix`: the end of the last part from its last point on;
* `Path.isTooLong`, `isNameTooLong`: what no file system takes for a path or a name;
* `LookupFault`: why the system does not say what a path leads to.
-/

namespace RouteCompiler

/-- A path: the slashes that it starts with, none for a relative one, and its parts. -/
structure Path where
  root : String
  parts : List String
  deriving DecidableEq, Repr, Inhabited

namespace Path

/-- The parts of a text between slashes. -/
def segments : List Char → List (List Char)
  | [] => [[]]
  | c :: rest =>
    if c = '/' then [] :: segments rest
    else
      match segments rest with
      | [] => [[c]]
      | first :: others => (c :: first) :: others

/-- Whether a part says something. -/
def isSignificant (part : List Char) : Bool :=
  !part.isEmpty && part != ['.']

/-- The slashes that make a path absolute. More than two are as good as one. -/
def rootOf : List Char → String
  | '/' :: '/' :: '/' :: _ => "/"
  | '/' :: '/' :: _ => "//"
  | '/' :: _ => "/"
  | _ => ""

/-- The path that a text spells. -/
def ofText (text : String) : Path where
  root := rootOf text.toList
  parts := ((segments text.toList).filter isSignificant).map String.ofList

/-- The spelling of a path. One without parts is the place itself. -/
def text (path : Path) : String :=
  if path.root.isEmpty && path.parts.isEmpty then "." else path.root ++ "/".intercalate path.parts

/-- The characters from the last point on. -/
def fromLastPoint (name : List Char) : List Char :=
  '.' :: (name.reverse.takeWhile (· != '.')).reverse

/-- The end of a name from its last point on. A point that starts or ends the name does not count. -/
def suffixOfName (name : List Char) : List Char :=
  let suffix := fromLastPoint name
  if 1 < suffix.length ∧ suffix.length < name.length then suffix else []

/-- Whether a path has more bytes than can be asked for. -/
def isTooLong (path : Path) : Bool :=
  decide (4096 ≤ path.text.utf8ByteSize)

/-- Whether a part has more bytes than the name of a file may have. -/
def isNameTooLong (part : String) : Bool :=
  decide (255 < part.utf8ByteSize)

/-- The end of the last part from its last point on. -/
def suffix (path : Path) : String :=
  String.ofList (suffixOfName ((path.parts.getLast?.getD "").toList))

end Path

/-- Why the system does not say what a path leads to. -/
inductive LookupFault where
  /-- The path or a name on the way is too long. -/
  | nameTooLong
  /-- A folder on the way may not be searched. -/
  | notPermitted
  /-- Another cause, with what the system says of it. -/
  | other (reason : String)
  deriving DecidableEq, Repr

/-- What is said of a path of which the system does not say what it leads to. -/
def LookupFault.text : LookupFault → String
  | .nameTooLong => "the name of a file is too long"
  | .notPermitted => "a folder may not be searched"
  | .other reason => reason

end RouteCompiler
