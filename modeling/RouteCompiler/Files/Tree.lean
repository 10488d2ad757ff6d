/-
**Files below one place.**

A tree of files is kept as the list of its files, each under the parts of its path. The folders are the
places that files lie below. A path is followed part by part, so a part of two points leads up from the
folder that is reached and every part before the last must be a folder. A name that is too long is
refused by the folder in which it is looked up.

* `Lookup`: what a path leads to;
* `FileTree`: files by the parts of their paths;
* `FileTree.lookupFrom`, `FileTree.lookup`: what the parts of a path, or a path, lead to.
-/

import RouteCompiler.Files.Path
import RouteCompiler.OrderedMap

namespace RouteCompiler

/-- What a path leads to. -/
inductive Lookup where
  /-- There is no file. -/
  | nothing
  /-- A file with its bytes. -/
  | file (bytes : ByteArray)
  /-- A file that cannot be read, and what the system says of it. -/
  | unreadable (reason : String)
  /-- The system does not say what the path leads to. -/
  | refused (fault : LookupFault)

/-- Files by the parts of their paths. -/
abbrev FileTree := List (List String × ByteArray)

namespace FileTree

/-- Whether a place is a folder: the place itself, or files lie below. -/
def isFolder (files : FileTree) (place : List String) : Bool :=
  place.isEmpty || files.any fun file =>
    place.isPrefixOf file.1 && decide (place.length < file.1.length)

/-- What the parts of a path lead to from a place. Nothing above the first place is known. -/
def lookupFrom (files : FileTree) : (place parts : List String) → Lookup
  | place, [] => ((OrderedMap.get? files place).map Lookup.file).getD .nothing
  | place, part :: rest =>
    if files.isFolder place then
      if part = ".." then
        if place.isEmpty then .nothing else files.lookupFrom place.dropLast rest
      else if Path.isNameTooLong part then .refused .nameTooLong
      else files.lookupFrom (place ++ [part]) rest
    else .nothing

/-- What a path leads to. -/
def lookup (files : FileTree) (path : Path) : Lookup :=
  if path.isTooLong then .refused .nameTooLong
  else if path.root.isEmpty then files.lookupFrom [] path.parts
  else .nothing

end FileTree

end RouteCompiler
