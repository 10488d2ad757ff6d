/-
**The command line.**

Options that hold for every command come before its name, and the options and the source of the
document come after it. Asking for help or for the version comes before anything else on its side of the
name, once the options there are understood.

* `Task`: what can be done;
* `Request`: what a command line asks for;
* `Request.ofArguments`: the request of a command line.
-/

import RouteCompiler.Command.Options
import RouteCompiler.Settings.Validation

namespace RouteCompiler.Command

/-! ### Requests -/

/-- The options that hold for every command. -/
structure CommonOptions where
  configPath : Option String
  json : Bool
  plain : Bool
  noColor : Bool
  quiet : Bool
  verbose : Bool
  deriving DecidableEq, Repr

/-- The options of a compilation. What is not given is left to other settings. -/
structure CompileOptions where
  filterDepth : Option Int
  recursive : Bool
  deriveRequired : Option Bool
  lenient : Bool
  deriving DecidableEq, Repr

/-- What can be done with the document of a source. -/
inductive Task where
  /-- The document is printed with its references resolved. -/
  | resolve (source : String)
  /-- The routes are printed. -/
  | compile (source handlers : String) (options : CompileOptions)
  /-- The routes are compiled and counted. -/
  | check (source handlers : String)
  deriving DecidableEq, Repr

/-- The source of the document. -/
def Task.source : Task → String
  | .resolve source | .compile source .. | .check source _ => source

/-- What a command line asks for. -/
inductive Request where
  /-- How the program is used, with the exit code. -/
  | help (exitCode : Int)
  /-- The version of the program. -/
  | version
  /-- Nothing that is understood. -/
  | misuse
  /-- A task. -/
  | task (common : CommonOptions) (task : Task)
  deriving DecidableEq, Repr

/-! ### Options -/

/-- The option for help, which every command has. -/
def helpName : String :=
  "--help"

/-- The option for the version. -/
def versionName : String :=
  "--version"

/-- The options that hold for every command. -/
def commonRules : List OptionRule :=
  [⟨[versionName], false⟩, ⟨["--config", "-c"], true⟩, ⟨["--json"], false⟩, ⟨["--plain"], false⟩,
    ⟨["--no-color"], false⟩, ⟨["--quiet", "-q"], false⟩, ⟨["--verbose", "-v"], false⟩,
    ⟨[helpName], false⟩]

/-- The options of the command that prints a document. -/
def resolveRules : List OptionRule :=
  [⟨[helpName], false⟩]

/-- The options of the command that checks a document. -/
def checkRules : List OptionRule :=
  [⟨["--handlers", "-H"], true⟩, ⟨[helpName], false⟩]

/-- The options of the command that prints routes. -/
def compileRules : List OptionRule :=
  [⟨["--handlers", "-H"], true⟩, ⟨["--filter-depth"], true⟩, ⟨["--recursive"], false⟩,
    ⟨["--derive-required"], false⟩, ⟨["--no-derive-required"], false⟩, ⟨["--lenient"], false⟩,
    ⟨[helpName], false⟩]

/-- The options before the name of a command. -/
def commonOptions (words : Words) : CommonOptions where
  configPath := words.value? "--config"
  json := words.has "--json"
  plain := words.has "--plain"
  noColor := words.has "--no-color"
  quiet := words.has "--quiet"
  verbose := words.has "--verbose"

/-- A depth of at least one, if one is given. Nothing if it is no such number. -/
def depthOption (words : Words) : Option (Option Int) :=
  match words.value? "--filter-depth" with
  | none => some none
  | some text =>
    match Settings.integerOfText text with
    | .error _ => none
    | .ok depth => if 1 ≤ depth then some (some depth) else none

/-- The options of a compilation. -/
def compileOptions (words : Words) : Option CompileOptions := do
  let filterDepth ← depthOption words
  let derive := words.last? ["--derive-required", "--no-derive-required"]
  return {
    filterDepth
    recursive := words.has "--recursive"
    deriveRequired := derive.map (· == "--derive-required")
    lenient := words.has "--lenient" }

/-! ### Commands -/

/-- The only word besides the options. -/
def sourceOf (words : Words) : Option String :=
  match words.others with
  | [source] => some source
  | _ => none

/-- The name of the handlers, which must be given. -/
def handlersOf (words : Words) : Option String :=
  words.value? "--handlers"

/-- The task that the words after the name of a command describe. -/
def taskOf (name : String) (words : Words) : Option Task :=
  match name with
  | "resolve" => (sourceOf words).map .resolve
  | "compile" => do return .compile (← sourceOf words) (← handlersOf words) (← compileOptions words)
  | "check" => do return .check (← sourceOf words) (← handlersOf words)
  | _ => none

/-- The options of a command. -/
def rulesOf? : (name : String) → Option (List OptionRule)
  | "resolve" => some resolveRules
  | "compile" => some compileRules
  | "check" => some checkRules
  | _ => none

/-- The request of a command. -/
def requestOfTask (common : CommonOptions) (name : String) (rules : List OptionRule)
    (arguments : List String) : Request :=
  match readWords rules true arguments with
  | none => .misuse
  | some words =>
    if words.has helpName then .help 0
    else ((taskOf name words).map (Request.task common)).getD .misuse

/-- The request of options that come before everything else. -/
def urgentRequest? (words : Words) : Option Request :=
  (words.first? [helpName, versionName]).map fun name => if name = helpName then .help 0 else .version

/-- The request of a command line whose first word names no command. Options that it holds are
understood once more, because they may have been kept from it. -/
def requestOfUnknown (arguments : List String) : Request :=
  ((readWords commonRules false arguments).bind urgentRequest?).getD .misuse

/-- The request of a command line. One without words asks for help in vain. -/
def Request.ofArguments (arguments : List String) : Request :=
  if arguments.isEmpty then .help 2
  else
    match readWords commonRules false arguments with
    | none => .misuse
    | some words =>
      match urgentRequest? words, words.others with
      | some request, _ => request
      | none, [] => .misuse
      | none, name :: rest =>
        match rulesOf? name with
        | none => requestOfUnknown (name :: rest)
        | some rules => requestOfTask (commonOptions words) name rules rest

end RouteCompiler.Command
