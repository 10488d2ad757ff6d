/-
**A session with the console.**

One console serves a whole program. It is installed with options, and a console without options is made
when something is to be written and none is installed.

* `Step`: what is asked of the console;
* `Written`: what a step writes;
* `Session.run`: the installed console and the outcome of a step.
-/

import RouteCompiler.Console.Basic

namespace RouteCompiler

/-- What is written to the two streams. -/
structure Written where
  stdout : String
  stderr : String
  deriving DecidableEq, Repr

namespace Written

/-- Nothing is written. -/
def nothing : Written :=
  ⟨"", ""⟩

/-- Data is written. -/
def data (text : String) : Written :=
  ⟨text, ""⟩

/-- Messages are written. -/
def messages (text : String) : Written :=
  ⟨"", text⟩

/-- What is written after something else. -/
def append (first second : Written) : Written :=
  ⟨first.stdout ++ second.stdout, first.stderr ++ second.stderr⟩

end Written

/-- What is asked of the console. -/
inductive Step where
  /-- A console is installed, with the name of a format if one is given. -/
  | install (format : Option String) (noColor quiet verbose : Bool)
  /-- The installed console is dropped. -/
  | reset
  /-- A message is written. -/
  | say (message : Message)
  /-- A text is written as data. -/
  | printData (text : String)
  /-- A document is written. -/
  | printDocument (document : Tree)
  /-- A table is written. -/
  | printTable (title : Option String) (headers : List String) (rows : List (List String))
  /-- The console is looked at. -/
  | inspect

/-- The installed console, if there is one. -/
abbrev Session := Option Console

namespace Session

/-- The console that serves: the installed one, or one without options. -/
def console (world : World) (session : Session) : Console :=
  session.getD (Console.ofOptions world .default)

/-- What a step writes on a console. -/
def write (console : Console) : Step → Except Failure Written
  | .say message => (console.lines message).map .messages
  | .printData text => .ok (.data (text ++ "\n"))
  | .printDocument document => (console.documentText document).map .data
  | .printTable title headers rows => (console.tableText title headers rows).map .data
  | .install .. | .reset | .inspect => .ok .nothing

/-- The installed console after a step and what the step writes. A step that fails leaves the console
as it is. -/
def run (world : World) (session : Session) : Step → Session × Except Failure Written
  | .install format noColor quiet verbose =>
    match (format.map FormatChoice.ofName).getD (.ok .auto) with
    | .ok choice => (some (.ofOptions world ⟨choice, noColor, quiet, verbose⟩), .ok .nothing)
    | .error failure => (session, .error failure)
  | .reset => (none, .ok .nothing)
  | step => (some (session.console world), write (session.console world) step)

end Session

end RouteCompiler
