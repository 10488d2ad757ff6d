/-
**What the program reports while it works.**

Progress is a list of events in the order in which they happen, kept also when a failure follows. An
event has a severity and comes from one part of the program; its line shows both.

* `Event`: what can be reported;
* `Event.line`: the text of an event;
* `Run`: a computation that reports events and may fail;
* `Run.report`: reports one event.
-/

import RouteCompiler.Failure

namespace RouteCompiler

/-- How grave an event is. -/
inductive Severity where
  /-- A detail. -/
  | debug
  /-- A step. -/
  | info
  /-- Something that may be unwanted. -/
  | warning
  deriving DecidableEq, Repr

/-- The name of a severity. -/
def Severity.name : Severity → String
  | .debug => "DEBUG"
  | .info => "INFO"
  | .warning => "WARNING"

/-- An event on the way. -/
inductive Event where
  /-- A document is fetched. -/
  | fetching (url : String)
  /-- A document follows a later version than the one that is fully supported. -/
  | laterVersion (version : String)
  /-- References are resolved. -/
  | resolvingReferences
  /-- The pointers of all components are known. -/
  | registered (count : Nat)
  /-- A component is resolved for the first time. -/
  | inlining (pointer : Pointer)
  /-- Routes are compiled. -/
  | compilingDocument
  /-- The operations of a path are compiled. -/
  | creatingPath (url : String)
  /-- An operation is compiled. -/
  | compilingOperation (place : String)
  /-- A schema without properties is passed on as it is. -/
  | leftUnfiltered (location : Location)
  /-- All routes are compiled. -/
  | compiled (count : Nat)
  deriving DecidableEq, Repr

namespace Event

/-- How grave an event is. -/
def severity : Event → Severity
  | .fetching _ | .registered _ | .inlining _ | .compilingOperation _ => .debug
  | .resolvingReferences | .compilingDocument | .creatingPath _ | .compiled _ => .info
  | .laterVersion _ | .leftUnfiltered _ => .warning

/-- The part of the program that an event comes from. -/
def channel : Event → String
  | .fetching _ | .laterVersion _ => "specroutes.parser.loader"
  | .registered _ | .inlining _ => "specroutes.parser.resolver"
  | .compilingOperation _ => "specroutes.compiler.methods"
  | .leftUnfiltered _ => "specroutes.compiler.schema_filter"
  | .resolvingReferences | .compilingDocument | .creatingPath _ | .compiled _ =>
    "specroutes.compiler.routes"

/-- What an event says. -/
def text : Event → String
  | .fetching url => "Fetching spec from " ++ url
  | .laterVersion version =>
    "OpenAPI " ++ version ++ " is newer than 3.0.x; compiling on a best-effort basis"
  | .resolvingReferences => "Resolving references"
  | .registered count => "Registered " ++ toString count ++ " component pointer(s)"
  | .inlining pointer => "Inlining " ++ pointer
  | .compilingDocument => "Compiling routes from the OpenAPI document"
  | .creatingPath url => "Creating path " ++ url
  | .compilingOperation place => "Compiling method " ++ place
  | .leftUnfiltered location =>
    "Schema without properties left unfiltered" ++
      (if location.isTruthy then " at " ++ location.display else "")
  | .compiled count => "Compiled " ++ toString count ++ " route(s)"

/-- The line of an event: severity, origin and text. -/
def line (event : Event) : String :=
  event.severity.name ++ " " ++ event.channel ++ ": " ++ event.text

end Event

/-- A computation that reports events and may fail. The events reported before a failure are kept. -/
abbrev Run := ExceptT Failure (StateM (List Event))

namespace Run

/-- Reports events. -/
def reportAll (events : List Event) : Run Unit :=
  modify (· ++ events)

/-- Reports one event. -/
def report (event : Event) : Run Unit :=
  reportAll [event]

/-- The outcome of a computation and the events that it reports. -/
def outcome {α : Type} (run : Run α) : Except Failure α × List Event :=
  run.run []

/-- A computation without events. -/
def ofExcept {α : Type} (result : Except Failure α) : Run α :=
  ExceptT.mk (pure result)

end Run

end RouteCompiler
