/-
**The program.**

What a command needs is gathered first: the files that its arguments name, and standard input if the
document comes from there. No server is asked. A program that serves routes links its handler
modules in by calling `runProgram` with them.
-/

import RouteCompiler.Command.Outcome

namespace RouteCompiler

/-- The files that a request may read. -/
def filesOf : Command.Request → List String
  | .task common task => [common.configPath.getD Settings.projectFileName, task.source]
  | _ => []

/-- Whether a request reads standard input. -/
def readsInput : Command.Request → Bool
  | .task _ task => Source.ofText task.source == .input
  | _ => false

/-- The variables of the environment that matter. -/
def variablesRead : List String :=
  Settings.names.map Settings.variableName ++ ["NO_COLOR", "TERM"]

/-- Whether something is where a path leads, as far as the system says. -/
def leadsSomewhere (path : Path) : IO Bool := do
  try
    let _ ← IO.FS.realPath path.text
    return true
  catch _ => return false

/-- What a path leads to. A file that is there may be kept from being read, and so may a folder on the way to it. -/
def readFile (path : Path) : IO Lookup := do
  try
    return .file (← IO.FS.readBinFile path.text)
  catch failure =>
    let isThere ← leadsSomewhere path
    match failure with
    | .permissionDenied .. =>
      return if isThere then .unreadable (toString failure) else .refused .notPermitted
    | .hardwareFault .. =>
      return if isThere then .unreadable (toString failure) else .refused (.other (toString failure))
    | .invalidArgument .. =>
      return if path.isTooLong || path.parts.any Path.isNameTooLong then .refused .nameTooLong else .nothing
    | _ => return .nothing

/-- Standard input, or what the system says if it cannot be read. -/
def readInput : IO (ByteArray × Option String) := do
  try
    return (← (← IO.getStdin).readBinToEnd, none)
  catch failure => return (.empty, some (toString failure))

/-- What is around a request. -/
def gather (modules : List (String × Members)) (request : Command.Request) : IO World := do
  let mut files : List (Path × Lookup) := []
  for name in filesOf request do
    let path := Path.ofText name
    files := (path, ← readFile path) :: files
  let mut environment : List (String × String) := []
  for name in variablesRead do
    if let some value ← IO.getEnv name then
      environment := (name, value) :: environment
  let (input, inputFault) ← if readsInput request then readInput else pure (.empty, none)
  let found := files
  return {
    directory := (← IO.currentDir).toString
    lookup := fun path => (OrderedMap.get? found path).getD .nothing
    input
    inputFault
    environment
    fetch := fun _ => .failed "requests are not supported"
    modules
    isTerminal := ← (← IO.getStdout).isTty }

/-- Runs a command line with the given handler modules. -/
def runProgram (modules : List (String × Members)) (arguments : List String) : IO UInt32 := do
  let request := Command.Request.ofArguments arguments
  let outcome := Command.perform (← gather modules request) request
  (← IO.getStdout).putStr outcome.stdout
  (← IO.getStderr).putStr outcome.stderr
  return UInt32.ofNat outcome.exitCode.toNat

end RouteCompiler

/-- Runs the command line without handler modules. -/
def main (arguments : List String) : IO UInt32 :=
  RouteCompiler.runProgram [] arguments
