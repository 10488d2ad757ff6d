/-
**The document of a text.**

A text is JSON or YAML. It is read as what it is known to be; a text of unknown form is read as JSON
first and as YAML if it is not JSON. Only an object is a document.

* `TextForm`: what is known of the form of a text;
* `ensureObject`: what is read, if it is an object;
* `documentOfText`: the document of a text;
* `documentOfText_isMap`: what is read is an object.
-/

import RouteCompiler.Event
import RouteCompiler.Yaml.Endless

namespace RouteCompiler

/-- What is known of the form of a text. -/
inductive TextForm where
  /-- It is JSON. -/
  | json
  /-- It is YAML. -/
  | yaml
  /-- Nothing is known. -/
  | unknown
  deriving DecidableEq, Repr

/-- What is read, if it is an object. -/
def ensureObject (read : Yaml.Parsed) : Except Failure Yaml.Parsed :=
  match read with
  | .tree .null => .error (.document (.notAnObject "empty document"))
  | read => if read.isMap then .ok read else .error (.document (.notAnObject read.kind))

/-- The failure to read a text as YAML, after the failure to read it as JSON if that was tried. -/
def yamlFailure (json : Option Json.ReadError) : Yaml.Fault → Failure
  | .noValue fault => .unexpected (.noValue fault)
  | fault => .document (.unparsable json fault)

/-- The document of a text as YAML, after the failure to read it as JSON if that was tried. -/
def documentOfYaml (json : Option Json.ReadError) (text : String) : Except Failure Yaml.Parsed :=
  match Yaml.read text with
  | .ok read => ensureObject read
  | .error fault => .error (yamlFailure json fault)

/-- The document of a text. A number that is too long, or a document that is too deep, is unexpected. -/
def documentOfText (form : TextForm) (text : String) : Except Failure Yaml.Parsed :=
  if form = .yaml then documentOfYaml none text
  else
    match Json.read text with
    | .ok tree => ensureObject (.tree tree)
    | .error error =>
      if error.fault.isUnexpected then .error (.unexpected (.unreadable error))
      else if form = .json then .error (.document (.invalidJson error))
      else documentOfYaml (some error) text

/-! ### Objects -/

theorem ensureObject_ok_iff {read document : Yaml.Parsed} :
    ensureObject read = .ok document ↔ document = read ∧ read.isMap = true := by
  unfold ensureObject
  split
  · exact iff_of_false nofun fun both => by cases both.2
  · split
    · rename_i isMap
      rw [and_iff_left isMap, Except.ok.injEq, eq_comm]
    · rename_i noMap
      exact iff_of_false nofun fun both => noMap both.2

end RouteCompiler
