/-
**Where settings come from.**

A setting is taken from the first of these that gives it: what is asked for explicitly, the environment,
the project file, the defaults. An explicit value that is absent asks for nothing; no limit on the depth
is asked for with a word.

* `explicit`: the settings that are asked for;
* `ofLayers`: the settings of a file, an environment and what is asked for;
* `resolve`: the settings of a command.
-/

import RouteCompiler.Settings.Environment
import RouteCompiler.Settings.ProjectFile
import RouteCompiler.Settings.Validation

namespace RouteCompiler.Settings

/-- The entry of a setting that is asked for, if its value is given. A depth may be asked for as text. -/
def explicitEntry (key : Scalar) (value : Tree) : Except ConfigProblem Entries :=
  match key, value with
  | _, .null => .ok []
  | .str name, .str text =>
    if name = filterDepthName then (depthOfText name text).map fun depth => [(.str name, depth)]
    else .ok [(.str name, .str text)]
  | key, value => .ok [(key, value)]

/-- The settings that are asked for. -/
def explicit : Entries → Except ConfigProblem Entries
  | [] => .ok []
  | (key, value) :: rest => do
    let entry ← explicitEntry key value
    let others ← explicit rest
    return entry ++ others

/-- The settings of a file, an environment and what is asked for, the last one first. -/
def ofLayers (file : Entries) (environment : List (String × String)) (overrides : Entries) :
    Except Failure Settings := do
  let fromEnvironment ← (ofEnvironment environment).mapError .config
  let asked ← (explicit overrides).mapError .config
  let merged := OrderedMap.merge (OrderedMap.merge file fromEnvironment) asked
  (ofTree (.map merged)).mapError fun issues => .config (.invalid issues)

/-- The settings of a command: those of the project under the environment and what is asked for. -/
def resolve (world : World) (path : Option String) (overrides : Entries) : Except Failure Settings := do
  let file ← ofProject world path
  ofLayers file world.environment overrides

end RouteCompiler.Settings
