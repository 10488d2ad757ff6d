/-
**Output.**

Data goes to standard output and messages go to standard error. Data is laid out in one of three formats,
of which the one for terminals is left to a renderer. Messages that are not essential can be suppressed.
Without colours a message is written as it is. With colours it is given markup and goes through the
renderer, which also reads what looks like markup in the text of the message, so there are messages that
cannot be shown.

* `Format`, `FormatChoice`: the formats and what can be asked for;
* `Console`: the choices that hold for a program;
* `Console.ofOptions`: the console of some options in a world;
* `Message.text`, `Message.markup`: a message without colours and with them;
* `Console.lines`: what a message adds to standard error;
* `Console.tableText`, `Console.documentText`: data as text.
-/

import RouteCompiler.Failure
import RouteCompiler.Json.Writer
import RouteCompiler.World

namespace RouteCompiler

/-! ### Formats -/

/-- How data is laid out. -/
inductive Format where
  /-- As JSON. -/
  | json
  /-- As lines of text. -/
  | plain
  /-- For a terminal. -/
  | rich
  deriving DecidableEq, Repr

/-- The name of a format. -/
def Format.name : Format → String
  | .json => "json"
  | .plain => "plain"
  | .rich => "rich"

/-- What can be asked for: a format, or the one that suits standard output. -/
inductive FormatChoice where
  /-- The format that suits standard output. -/
  | auto
  /-- A format. -/
  | fixed (format : Format)
  deriving DecidableEq, Repr

/-- The choice that a name stands for. -/
def FormatChoice.ofName (name : String) : Except Failure FormatChoice :=
  if name = "auto" then .ok .auto
  else
    match [Format.json, .plain, .rich].find? (·.name == name) with
    | some format => .ok (.fixed format)
    | none => .error (.unexpected (.unknownFormat name))

/-! ### Messages -/

/-- A message. -/
inductive Message where
  /-- Something worth knowing. -/
  | info (text : String)
  /-- Something went well. -/
  | success (text : String)
  /-- Something may be unwanted. -/
  | warning (text : String)
  /-- Something went wrong. -/
  | error (text : String)
  /-- A detail. -/
  | debug (text : String)
  /-- Lines about what went wrong. -/
  | report (text : String)
  deriving DecidableEq, Repr

/-- The text of a message without colours. -/
def Message.text : Message → String
  | .info text => text
  | .success text => text
  | .warning text => "Warning: " ++ text
  | .error text => "Error: " ++ text
  | .debug text => "[debug] " ++ text
  | .report text => text

/-- The text of a message with the markup that gives it its colours. -/
def Message.markup : Message → String
  | .info text => text
  | .success text => "[green]" ++ text ++ "[/green]"
  | .warning text => "[yellow]Warning:[/yellow] " ++ text
  | .error text => "[bold red]Error:[/bold red] " ++ text
  | .debug text => "[dim]\\[debug] " ++ text ++ "[/dim]"
  | .report text => text

/-! ### Consoles -/

/-- What is asked of a console. -/
structure ConsoleOptions where
  format : FormatChoice
  noColor : Bool
  quiet : Bool
  verbose : Bool
  deriving DecidableEq, Repr

/-- Nothing in particular is asked. -/
def ConsoleOptions.default : ConsoleOptions :=
  ⟨.auto, false, false, false⟩

/-- The choices that hold for a program, and the renderer that it writes through. -/
structure Console where
  format : Format
  hasColor : Bool
  isQuiet : Bool
  isVerbose : Bool
  renderer : Renderer

/-- Whether the environment rules out colours. -/
def World.refusesColor (world : World) : Bool :=
  (world.environmentValue? "NO_COLOR").isSome || world.environmentValue? "TERM" == some "dumb"

/-- The format that is chosen. A terminal with colours suits the format for terminals. -/
def FormatChoice.resolve (hasColor isTerminal : Bool) : FormatChoice → Format
  | .fixed format => format
  | .auto => if isTerminal && hasColor then .rich else .plain

namespace Console

/-- The console of some options. -/
def ofOptions (world : World) (options : ConsoleOptions) : Console :=
  let hasColor := !(options.noColor || world.refusesColor)
  { format := options.format.resolve hasColor world.isTerminal
    hasColor
    isQuiet := options.quiet
    isVerbose := options.verbose
    renderer := world.renderer }

/-- Whether a message is shown. -/
def shows (console : Console) : Message → Bool
  | .info _ | .success _ => !console.isQuiet
  | .debug _ => console.isVerbose
  | .warning _ | .error _ | .report _ => true

/-- What has been rendered. -/
def ofRendered : Except Text.MarkupFault String → Except Failure String :=
  .mapError fun fault => .unexpected (.markup fault)

/-- What the renderer makes of a message. A report has no markup. -/
def coloredLines (console : Console) : Message → Except Failure String
  | .report text => .ok (console.renderer.verbatim text)
  | message => ofRendered (console.renderer.message message.markup)

/-- What a message adds to standard error. -/
def lines (console : Console) (message : Message) : Except Failure String :=
  if console.shows message then
    if console.hasColor then console.coloredLines message else .ok (message.text ++ "\n")
  else .ok ""

end Console

/-! ### Data -/

/-- The text of a document as JSON. -/
def documentText (document : Tree) : Except Failure String :=
  match Json.fault? document with
  | none => .ok (Json.write (.indented 2) document)
  | some fault => .error (.unexpected (.unwritable fault))

/-- A document in the format of a console. -/
def Console.documentText (console : Console) (document : Tree) : Except Failure String :=
  (RouteCompiler.documentText document).map fun text =>
    match console.format with
    | .json | .plain => text ++ "\n"
    | .rich => console.renderer.document text

/-- A row of a table as an object with the headers for keys. What has no header is left out. -/
def rowObject (headers row : List String) : Tree :=
  .map (OrderedMap.ofList ((headers.zip row).map fun (header, cell) => (.str header, .str cell)))

/-- A table in the format of a console. Only a terminal shows its title. -/
def Console.tableText (console : Console) (title : Option String) (headers : List String)
    (rows : List (List String)) : Except Failure String :=
  match console.format with
  | .json => .ok (Json.write (.indented 2) (.list (rows.map (rowObject headers))) ++ "\n")
  | .plain => .ok (String.join ((headers :: rows).map lineOfCells))
  | .rich => ofRendered (console.renderer.table title headers rows)

end RouteCompiler
