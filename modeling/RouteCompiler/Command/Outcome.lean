/-
**What a command does.**

A command reads its settings, loads a document, looks up the handlers and compiles, in this order, and then
writes what it has made.

* `loadDocument`, `resolveSource`, `compileSource`: what a command makes of a source;
* `Task.run`: what a task does;
* `run`: the outcome of a command line.
-/

import RouteCompiler.Command.Action
import RouteCompiler.Command.Arguments
import RouteCompiler.Route.Document
import RouteCompiler.Route.Modules
import RouteCompiler.Settings.Layers
import RouteCompiler.Source.Load
import RouteCompiler.Source.Version

namespace RouteCompiler.Command

/-! ### Tasks -/

/-- The document of a source. Its version must be supported. -/
def loadDocument (world : World) (source : String) : Run Yaml.Parsed := do
  let document ← (Source.ofText source).load world
  let _ ← openApiVersion document
  return document

/-- The settings that the options of a compilation ask for. -/
def CompileOptions.settings (options : CompileOptions) : Entries :=
  let depth := if options.recursive then .str "all" else (options.filterDepth.map Tree.int).getD .null
  [(Settings.filterDepthName, depth),
    (Settings.deriveRequiredName, (options.deriveRequired.map Tree.bool).getD .null),
    (Settings.strictSchemasName, if options.lenient then .bool false else .null)]

/-- The document of a source with its references resolved. -/
def resolveSource (world : World) (source : String) : Run Tree := do
  let document ← loadDocument world source
  resolveParsed document

/-- The routes of the document of a source. -/
def compileSource (world : World) (configPath : Option String) (overrides : Entries)
    (source handlers : String) : Run (List Route) := do
  let settings ← Run.ofExcept (Settings.resolve world configPath overrides)
  let document ← loadDocument world source
  let handlers ← Run.ofExcept (importHandlers world.modules handlers)
  compileParsed settings handlers document

/-- A route as a document. -/
def routeObject (made : Route) : Tree :=
  .map [
    ("method", .str made.method),
    ("url", .str made.url),
    ("path", .str made.path),
    ("operationId", .str made.operationId),
    ("handler", .str made.handler),
    ("schema", .map made.schema)]

/-- The keys of a schema in one cell. -/
def schemaCell (schema : Entries) : String :=
  let keys := ", ".intercalate (schema.map fun entry => entry.1.display)
  if keys.isEmpty then "-" else keys

/-- A route as a row of a table. -/
def routeRow (made : Route) : List String :=
  [made.method, made.url, made.operationId, made.handler, schemaCell made.schema]

/-- The headers of a table of routes. -/
def routeHeaders : List String :=
  ["Method", "URL", "Operation", "Handler", "Schema"]

/-- The title of a table of routes. -/
def routesTitle (routes : List Route) : String :=
  "Routes (" ++ toString routes.length ++ ")"

/-- The step that writes routes. -/
def routesStep (console : Console) (routes : List Route) : Step :=
  match console.format with
  | .json => .printDocument (.list (routes.map routeObject))
  | .plain | .rich => .printTable (some (routesTitle routes)) routeHeaders (routes.map routeRow)

/-- What is said of routes that can be served. -/
def countText (routes : List Route) : String :=
  "OK: " ++ toString routes.length ++ " route(s) compiled"

/-- What a task does. Failures are said as long as there is nothing to write. -/
def Task.run (world : World) (console : Console) (configPath : Option String) : Task → Action Unit
  | .resolve source => do
    let resolved ← Action.reporting console (.ofRun console (resolveSource world source))
    Action.step console (.printDocument resolved)
  | .compile source handlers options => do
    let routes ← Action.reporting console
      (.ofRun console (compileSource world configPath options.settings source handlers))
    Action.step console (routesStep console routes)
  | .check source handlers => do
    let routes ← Action.reporting console (.ofRun console (compileSource world configPath [] source handlers))
    Action.step console (.say (.success (countText routes)))

/-! ### Requests -/

/-- The console that the options ask for. -/
def consoleOf (world : World) (common : CommonOptions) : Console :=
  let format : FormatChoice :=
    if common.json then .fixed .json else if common.plain then .fixed .plain else .auto
  .ofOptions world ⟨format, common.noColor, common.quiet, common.verbose⟩

/-- How the program is used. -/
def usageText : String :=
  "\n".intercalate [
    "Usage: specroutes [OPTIONS] COMMAND [ARGS]...",
    "",
    "Compile OpenAPI 3.0 documents into router-ready route descriptors.",
    "",
    "Options: --version, --config/-c FILE, --json, --plain, --no-color, --quiet/-q, --verbose/-v, --help",
    "",
    "Commands:",
    "  resolve SPEC",
    "  compile SPEC --handlers/-H MODULE [--filter-depth N] [--recursive]",
    "    [--derive-required/--no-derive-required] [--lenient]",
    "  check SPEC --handlers/-H MODULE",
    ""]

/-- The name and version of the program. -/
def versionText : String :=
  "specroutes 0.1.0\n"

/-- The outcome of a request. -/
def perform (world : World) : Request → Outcome
  | .help exitCode => ⟨exitCode, usageText, ""⟩
  | .version => ⟨0, versionText, ""⟩
  | .misuse => ⟨2, "", usageText⟩
  | .task common task =>
    let console := consoleOf world common
    outcomeOf console (task.run world console common.configPath)

/-- The outcome of a command line. -/
def run (world : World) (arguments : List String) : Outcome :=
  perform world (.ofArguments arguments)

end RouteCompiler.Command
