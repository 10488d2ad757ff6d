/-
**What a command finds around it.**

A command reads files, standard input, the environment and the answers of servers, and it looks up the
handler modules that are linked into the program. All of this is given to it as one value, so what it
does depends on nothing else.

* `Reply`: what becomes of a request to a server;
* `World`: what is around a command, the renderer of messages among it;
* `World.empty`: nothing.
-/

import RouteCompiler.Console.Renderer
import RouteCompiler.Files.Tree
import RouteCompiler.Route.Handler

namespace RouteCompiler

/-- What becomes of a request to a server. -/
inductive Reply where
  /-- The server cannot be reached. -/
  | failed (reason : String)
  /-- The server answers. -/
  | answered (status : Int) (contentType : Option String) (body : ByteArray)

/-- What is around a command. -/
structure World where
  /-- The spelling of the working directory. -/
  directory : String
  /-- What a path leads to. -/
  lookup : Path → Lookup
  /-- Standard input. -/
  input : ByteArray
  /-- What the system says if standard input cannot be read. -/
  inputFault : Option String := none
  /-- The variables of the environment. -/
  environment : List (String × String)
  /-- The answer to a request. -/
  fetch : (url : String) → Reply
  /-- The handler modules by name. -/
  modules : List (String × Members)
  /-- Whether standard output is a terminal. -/
  isTerminal : Bool
  /-- What a terminal makes of what is written. -/
  renderer : Renderer := .plain

namespace World

/-- Nothing is around. -/
def empty : World where
  directory := "."
  lookup := fun _ => .nothing
  input := .empty
  environment := []
  fetch := fun _ => .failed "no server"
  modules := []
  isTerminal := false

instance : Inhabited World :=
  ⟨empty⟩

/-- The value of a variable of the environment. -/
def environmentValue? (world : World) (name : String) : Option String :=
  OrderedMap.get? world.environment name

end World

end RouteCompiler
