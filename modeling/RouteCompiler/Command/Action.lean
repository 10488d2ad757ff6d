/-
**Commands at work.**

A command writes as it goes. What it reports is shown when it is reported, data goes out when the command has
it, and what is written stays written however the command ends. A failure of the program's own can be said where
it happens, and then the command ends with the exit code of the failure; any other failure is said at the very
end. That the message of a failure cannot be shown is a failure too, which takes its place; where that happens at
the very end nothing is left that says it, and the command breaks off.

* `Halt`: how a command ends before its last step;
* `Action`: a computation that writes and may end early;
* `Action.step`: a step on a console;
* `Action.ofRun`: a computation whose events are shown;
* `Action.reporting`: an action whose failures are said where they happen;
* `outcomeOf`: the exit code of an action and what it writes.
-/

import RouteCompiler.Console.Session
import RouteCompiler.Event

namespace RouteCompiler.Command

/-! ### What is said -/

/-- Whether an event is shown. Warnings always are. -/
def showsEvent (console : Console) (event : Event) : Bool :=
  console.isVerbose || event.severity == .warning

/-- The lines of the events that are shown. -/
def eventLines (console : Console) (events : List Event) : String :=
  String.join ((events.filter (showsEvent console)).map fun event => event.line ++ "\n")

/-- What is said at the very end of a failure of which nothing has been said. -/
def lastMessage (failure : Failure) : Message :=
  .error (if failure.isOwn then failure.message else "Unexpected error: " ++ failure.message)

/-! ### Actions -/

/-- How a command ends before its last step. -/
inductive Halt where
  /-- All has been said, and the exit code is known. -/
  | exit (code : Int)
  /-- A failure of which nothing has been said. -/
  | failure (failure : Failure)
  deriving DecidableEq, Repr

/-- A computation that writes as it goes and may end early. What it has written before stays. -/
abbrev Action := ExceptT Halt (StateM Written)

namespace Action

variable {α : Type}

/-- Writes after what has been written. -/
def write (written : Written) : Action Unit :=
  modify (·.append written)

/-- What a step writes on a console. -/
def step (console : Console) (asked : Step) : Action Unit :=
  match Session.write console asked with
  | .ok written => write written
  | .error failure => throw (.failure failure)

/-- A computation whose events are shown. -/
def ofRun (console : Console) (run : Run α) : Action α := do
  write (.messages (eventLines console run.outcome.2))
  match run.outcome.1 with
  | .ok value => return value
  | .error failure => throw (.failure failure)

/-- Says what ends an action, if that is a failure of the program's own: its message, and its report if that says
more. -/
def sayHalt (console : Console) : Halt → Action α
  | .exit code => throw (.exit code)
  | .failure failure =>
    if failure.isOwn then do
      step console (.say (.error failure.message))
      if failure.report ≠ failure.message then step console (.say (.report failure.report))
      throw (.exit failure.exitCode)
    else throw (.failure failure)

/-- An action whose failures are said where they happen. -/
def reporting (console : Console) (action : Action α) : Action α :=
  tryCatch action (sayHalt console)

end Action

/-! ### Outcomes -/

/-- The exit code of a command and what it writes. -/
structure Outcome where
  exitCode : Int
  stdout : String
  stderr : String
  deriving DecidableEq, Repr

/-- The exit code and what is written, with what is still to be said of a failure. -/
def outcomeOf (console : Console) (action : Action Unit) : Outcome :=
  match action.run .nothing with
  | (.ok (), written) => ⟨0, written.stdout, written.stderr⟩
  | (.error (.exit code), written) => ⟨code, written.stdout, written.stderr⟩
  | (.error (.failure failure), written) =>
    match console.lines (lastMessage failure) with
    | .ok text => ⟨failure.exitCode, written.stdout, written.stderr ++ text⟩
    | .error cause =>
      ⟨cause.exitCode, written.stdout, written.stderr ++ console.renderer.backtrace cause.message⟩

end RouteCompiler.Command
