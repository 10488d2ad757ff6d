/-
**Settings in a file.**

A project may keep its settings in a JSON file, which lies in the working directory unless a path to
another is given. The file in the working directory need not exist. A path of which the system does not
say what it leads to is unexpected.

* `projectFileName`: the name of the file;
* `ofFile`: the settings that a file holds;
* `ofProject`: the settings of a project.
-/

import RouteCompiler.Failure
import RouteCompiler.Settings.Basic
import RouteCompiler.Text.Decoded
import RouteCompiler.World

namespace RouteCompiler.Settings

/-- The name of the file in the working directory. -/
def projectFileName : String :=
  "specroutes.json"

/-- The settings that the bytes of a file hold. The path is as messages spell it. -/
def ofFile (path : String) (bytes : ByteArray) : Except Failure Entries :=
  match Text.decode? bytes with
  | none => .error (.unexpected (.notUtf8 path))
  | some text =>
    match Json.read text with
    | .ok (.map entries) => .ok entries
    | .ok _ => .error (.config (.fileNotObject path))
    | .error error =>
      if error.fault.isUnexpected then .error (.unexpected (.unreadable error))
      else .error (.config (.invalidFile path error))

/-- The settings of a project: those in the file with the given path, or those in the file in the
working directory if there is one. -/
def ofProject (world : World) : (path : Option String) → Except Failure Entries
  | some path =>
    let path := Path.ofText path
    match world.lookup path with
    | .file bytes => ofFile path.text bytes
    | .unreadable reason => .error (.config (.fileUnreadable path.text reason))
    | .nothing => .error (.config (.fileNotFound path.text))
    | .refused fault => .error (.unexpected (.refusedPath path.text fault))
  | none =>
    let spelling := world.directory ++ "/" ++ projectFileName
    match world.lookup (Path.ofText projectFileName) with
    | .file bytes => ofFile spelling bytes
    | .unreadable reason => .error (.config (.fileUnreadable spelling reason))
    | .nothing => .ok []
    | .refused fault => .error (.unexpected (.refusedPath spelling fault))

end RouteCompiler.Settings
