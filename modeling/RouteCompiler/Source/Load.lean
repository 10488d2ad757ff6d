/-
**Where documents come from.**

A source is standard input, written as a dash, the address of a server or the path of a file. The form
of the text is told by the suffix of the file or by what the server says about its answer.

* `Source`: where a document comes from;
* `Source.ofText`: the source that an argument names;
* `Source.load`: the document of a source.
-/

import RouteCompiler.Source.Address
import RouteCompiler.Source.Content
import RouteCompiler.Source.ContentType
import RouteCompiler.Text.Decoded
import RouteCompiler.World

namespace RouteCompiler

/-- Where a document comes from. -/
inductive Source where
  /-- Standard input. -/
  | input
  /-- A server. -/
  | server (url : String)
  /-- A file. -/
  | file (path : String)
  deriving DecidableEq, Repr

namespace Source

/-- The source that an argument names. -/
def ofText (text : String) : Source :=
  if text = "-" then .input
  else if text.startsWith "http://" || text.startsWith "https://" then .server text
  else .file text

/-! ### The form of a text -/

/-- The form of a file, told by the end of its name in any case. -/
def formOfSuffix (suffix : String) : TextForm :=
  let suffix := Text.lower suffix
  if suffix = ".json" then .json
  else if suffix = ".yaml" ∨ suffix = ".yml" then .yaml
  else .unknown

/-- The form of an answer, told by its content type. -/
def formOfContentType (contentType : String) : TextForm :=
  let chars := contentType.toList
  if holds "json".toList chars then .json
  else if holds "yaml".toList chars || holds "yml".toList chars then .yaml
  else .unknown

/-! ### Loading -/

/-- The text of the bytes of a named thing. -/
def decoded (name : String) (bytes : ByteArray) : Except Failure String :=
  match Text.decode? bytes with
  | some text => .ok text
  | none => .error (.unexpected (.notUtf8 name))

/-- The document on standard input. -/
def loadInput (world : World) : Except Failure Yaml.Parsed :=
  match world.inputFault with
  | some reason => .error (.document (.inputUnreadable reason))
  | none => do
    let text ← decoded "stdin" world.input
    if Text.isAllBlank text then throw (.document .noInput)
    documentOfText .unknown text

/-- The document in a file. -/
def loadFile (world : World) (name : String) : Except Failure Yaml.Parsed := do
  let path := Path.ofText name
  match world.lookup path with
  | .nothing => throw (.document (.fileNotFound name))
  | .refused fault => throw (.unexpected (.refusedPath name fault))
  | .unreadable reason => throw (.document (.fileUnreadable name reason))
  | .file bytes =>
    let text ← decoded name bytes
    if Text.isAllBlank text then throw (.document (.fileEmpty name))
    documentOfText (formOfSuffix path.suffix) text

/-- The charset of an answer: the one that its content type names, or UTF-8 if there is no such. -/
def charsetOfReply (contentType : String) : Text.Charset :=
  ((ContentType.charsetName? contentType).bind Text.Charset.ofName?).getD .utf8

/-- The text of an answer. Bytes that spell nothing are marked. -/
def textOfReply (contentType : String) (body : ByteArray) : Except Failure String :=
  if body.isEmpty then .ok ""
  else if ContentType.hasMixedParts contentType then .error (.unexpected .notSortable)
  else
    match (charsetOfReply contentType).decode body.toList with
    | .ok spelled => .ok spelled.lenient
    | .error fault => .error (.unexpected (.undecodable fault))

/-- The document in the answer of a server. The headers of an answer are ASCII. -/
def documentOfReply (url : String) : Reply → Except Failure Yaml.Parsed
  | .failed reason => .error (.document (.unreachable url reason))
  | .answered status contentType body => do
    if (contentType.getD "").toList.any fun c => 0x80 ≤ c.toNat then
      throw (.unexpected (.headerNotAscii (contentType.getD "")))
    if status < 200 ∨ 300 ≤ status then throw (.document (.httpStatus status url))
    let text ← textOfReply (contentType.getD "") body
    documentOfText (formOfContentType (contentType.getD "")) text

/-- The document of the server with an address. -/
def documentOfServer (world : World) (url : String) : Except Failure Yaml.Parsed :=
  if isAddress url then documentOfReply url (world.fetch url)
  else .error (.unexpected (.invalidAddress url))

/-- The document of a source. -/
def load (world : World) : Source → Run Yaml.Parsed
  | .input => Run.ofExcept (loadInput world)
  | .file name => Run.ofExcept (loadFile world name)
  | .server url => do
    Run.report (.fetching url)
    Run.ofExcept (documentOfServer world url)

end Source

end RouteCompiler
