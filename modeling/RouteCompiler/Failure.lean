/-
**Failures.**

What stops the program is one of its own failures, which are reported with a message, a report of one
or more lines and an exit code, or a value of a shape that it does not check for, which is unexpected.

* `Failure`: the failures by cause;
* `Failure.message`, `Failure.report`, `Failure.exitCode`: what the user sees of one;
* `Failure.isCompileFailure`: the failures of a document that was read but cannot be compiled.
-/

import RouteCompiler.Files.Path
import RouteCompiler.Json.Reader
import RouteCompiler.Json.Writer
import RouteCompiler.Settings.Issue
import RouteCompiler.Text.Case
import RouteCompiler.Text.Charset
import RouteCompiler.Text.Markup
import RouteCompiler.Tree.Display
import RouteCompiler.Yaml.Fault

namespace RouteCompiler

/-! ### Causes -/

/-- A pointer to a component of a document. -/
abbrev Pointer := String

/-- The place of a problem: a text, or the key of the document that it stands under. The absent value
says that the place is not known. -/
abbrev Location := Scalar

/-- Why a part of a document cannot be compiled. -/
inductive SchemaProblem where
  /-- A schema is no object. -/
  | schemaNotObject (kind : String)
  /-- The schema of an array does not describe its items. -/
  | arrayWithoutItems
  /-- A schema that is to be filtered has no properties. -/
  | withoutProperties
  /-- The schema of a property is no object. -/
  | propertyNotObject (name : Scalar)
  /-- The names of the required properties are no list. -/
  | requiredNotList
  /-- A parameter is no object. -/
  | parameterNotObject (kind : String)
  /-- A parameter has no name. -/
  | parameterWithoutName
  /-- A parameter is in no part of a request. -/
  | unsupportedLocation (location : String)
  /-- An operation is no object. -/
  | operationNotObject
  /-- The paths are no object. -/
  | pathsNotObject
  /-- A path item is no object. -/
  | pathItemNotObject
  /-- A reference with sibling keys is to a component that is no object. -/
  | siblingsOfValue (keys : List Scalar)
  /-- A problem found by a caller. -/
  | other (text : String)
  deriving DecidableEq, Repr

/-- What a problem with a part of a document says. -/
def SchemaProblem.text : SchemaProblem → String
  | .schemaNotObject kind => "Schema must be an object, got " ++ kind
  | .arrayWithoutItems => "Array schema has no 'items' object"
  | .withoutProperties => "Schema has no 'properties' object to filter"
  | .propertyNotObject name => "Property '" ++ name.display ++ "' is not a schema object"
  | .requiredNotList => "'required' must be a list"
  | .parameterNotObject kind => "Parameter must be an object, got " ++ kind
  | .parameterWithoutName => "Parameter has no 'name'"
  | .unsupportedLocation location => "Unsupported parameter location '" ++ location ++ "'"
  | .operationNotObject => "Operation must be an object"
  | .pathsNotObject => "'paths' must be an object"
  | .pathItemNotObject => "Path item must be an object"
  | .siblingsOfValue keys =>
    "Cannot splice non-object component into an object with sibling keys " ++
      (Tree.list (keys.map .scalar)).literal
  | .other text => text

/-- Whether what a problem says can be spelled. -/
def SchemaProblem.isSpellable : SchemaProblem → Bool
  | .propertyNotObject name => name.isSpellable
  | .siblingsOfValue keys => keys.all Scalar.isSpellable
  | _ => true

/-- An operation that no handler serves: its template and verb, and its name with the handler's when
it has one. -/
structure MissingHandler where
  path : String
  method : String
  operationId : Option String
  handlerName : Option String
  deriving DecidableEq, Repr

/-- Verb and template of an operation. -/
def MissingHandler.place (missing : MissingHandler) : String :=
  Text.upper missing.method ++ " " ++ missing.path

/-- The name under which a message lists an operation: the handler's if it has one that is not empty. -/
def MissingHandler.label (missing : MissingHandler) : String :=
  match missing.handlerName with
  | some name => if name.isEmpty then missing.place else name
  | none => missing.place

/-- The line of a report on an operation. -/
def MissingHandler.describe (missing : MissingHandler) : String :=
  match missing.operationId with
  | none => missing.place ++ ": operation has no operationId"
  | some operation =>
    missing.place ++ ": the handler " ++ missing.handlerName.getD "None" ++
      " is absent (operationId " ++ operation ++ ")"

/-- Why a document cannot be read. -/
inductive DocumentProblem where
  /-- Standard input cannot be read. -/
  | inputUnreadable (reason : String)
  /-- Standard input is empty. -/
  | noInput
  /-- A server answered with a status other than success. -/
  | httpStatus (status : Int) (url : String)
  /-- A server could not be reached. -/
  | unreachable (url reason : String)
  /-- There is no such file. -/
  | fileNotFound (path : String)
  /-- A file cannot be read. -/
  | fileUnreadable (path reason : String)
  /-- A file is empty. -/
  | fileEmpty (path : String)
  /-- A text that must be JSON is not. -/
  | invalidJson (error : Json.ReadError)
  /-- A text is not YAML, and not JSON either if that was tried. -/
  | unparsable (json : Option Json.ReadError) (yaml : Yaml.Fault)
  /-- A text holds a value other than an object. -/
  | notAnObject (kind : String)
  /-- The document follows an older standard. -/
  | swagger (version : String)
  /-- The document does not name the version that it follows. -/
  | versionMissing
  /-- The document follows a version that is not supported. -/
  | versionUnsupported (version : String)
  deriving DecidableEq, Repr

/-- What only documents of version three can be. -/
def onlyVersionThree : String :=
  "Only OpenAPI 3.x documents can be compiled."

/-- What a problem with a document says. -/
def DocumentProblem.text : DocumentProblem → String
  | .inputUnreadable reason => "Failed to read from stdin: " ++ reason
  | .noInput => "No input received from stdin"
  | .httpStatus status url => "HTTP " ++ toString status ++ " fetching spec from " ++ url
  | .unreachable url reason => "Failed to fetch spec from " ++ url ++ ": " ++ reason
  | .fileNotFound path => "Spec file not found: " ++ path
  | .fileUnreadable path reason => "Failed to read spec file " ++ path ++ ": " ++ reason
  | .fileEmpty path => "Spec file is empty: " ++ path
  | .invalidJson error => "Invalid JSON: " ++ error.text
  | .unparsable json yaml =>
    "Failed to parse spec as JSON or YAML" ++
      (json.map fun error => "\n  JSON error: " ++ error.text).getD "" ++
      "\n  YAML error: " ++ yaml.text
  | .notAnObject kind => "Spec must be a JSON/YAML object (got " ++ kind ++ ")"
  | .swagger version => "Swagger " ++ version ++ " is not supported. " ++ onlyVersionThree
  | .versionMissing => "Missing 'openapi' field. Is this an OpenAPI 3.x document?"
  | .versionUnsupported version =>
    "Unsupported OpenAPI version: " ++ version ++ ". " ++ onlyVersionThree

/-- Why the settings cannot be read. -/
inductive ConfigProblem where
  /-- There is no such file. -/
  | fileNotFound (path : String)
  /-- A file cannot be read. -/
  | fileUnreadable (path reason : String)
  /-- A file is not JSON. -/
  | invalidFile (path : String) (error : Json.ReadError)
  /-- A file holds a value other than an object. -/
  | fileNotObject (path : String)
  /-- A text spells no truth value. -/
  | invalidBoolean (name text : String)
  /-- A text spells no depth. -/
  | invalidDepth (name text : String)
  /-- The values taken together are no settings. -/
  | invalid (issues : List Issue)
  deriving DecidableEq, Repr

/-- What a problem with the settings says. -/
def ConfigProblem.text : ConfigProblem → String
  | .fileNotFound path => "Config file not found: " ++ path
  | .fileUnreadable path reason => "Invalid config at " ++ path ++ ": " ++ reason
  | .invalidFile path error => "Invalid config at " ++ path ++ ": " ++ error.text
  | .fileNotObject path => "Invalid config at " ++ path ++ ": expected a JSON object"
  | .invalidBoolean name text => "Invalid boolean for " ++ name ++ ": " ++ Text.quoted text
  | .invalidDepth name text =>
    "Invalid depth for " ++ name ++ ": " ++ Text.quoted text ++ " (expected a number or 'all')"
  | .invalid issues => "Invalid configuration: " ++ "; ".intercalate (issues.map Issue.text)

/-- Why the handlers cannot be found. -/
inductive UsageProblem where
  /-- There is no such module. -/
  | moduleNotFound (module reason : String)
  /-- A module has no such member. -/
  | memberNotFound (module member : String)
  deriving DecidableEq, Repr

/-- What a problem with the handlers says. -/
def UsageProblem.text : UsageProblem → String
  | .moduleNotFound module reason => "Cannot import handler module '" ++ module ++ "': " ++ reason
  | .memberNotFound module member =>
    "Handler module '" ++ module ++ "' has no attribute '" ++ member ++ "'"

/-- A value of a shape that is not checked for. -/
inductive Unexpected where
  /-- The entries of something that is no object are asked for. -/
  | notAnObject (kind : String)
  /-- A component or its group has a name that is no text. -/
  | nameNotText (kind : String)
  /-- Something that has no elements is gone through. -/
  | notIterable (kind : String)
  /-- A container is looked for among names. -/
  | notComparable (kind : String)
  /-- Values of kinds without a common order are sorted. -/
  | notSortable
  /-- A path template is no text. -/
  | templateNotText (kind : String)
  /-- A filter is to remove fewer than one level. -/
  | depthBelowOne (depth : Int)
  /-- A handler class cannot be made without arguments. -/
  | cannotInstantiate (name : String)
  /-- The name of a handler module is empty. -/
  | emptyModuleName
  /-- The name of a handler module is relative to a package that is not given. -/
  | relativeModuleName (name : String)
  /-- The system does not say what a path leads to. -/
  | refusedPath (path : String) (fault : LookupFault)
  /-- A file is not UTF-8. -/
  | notUtf8 (path : String)
  /-- A text is beyond what can be read. -/
  | unreadable (error : Json.ReadError)
  /-- A whole number has too many digits to be written. -/
  | numberTooLong
  /-- A part of a document has no value. -/
  | noValue (fault : Yaml.ValueFault)
  /-- An address is not well formed. -/
  | invalidAddress (url : String)
  /-- A header of an answer is not ASCII. -/
  | headerNotAscii (text : String)
  /-- The text of an answer cannot be read. -/
  | undecodable (fault : Text.CharsetFault)
  /-- A document is to be printed that has no text. -/
  | unwritable (fault : Json.WriteFault)
  /-- There is no such output format. -/
  | unknownFormat (name : String)
  /-- The markup of a message or of a table cannot be carried out. -/
  | markup (fault : Text.MarkupFault)
  deriving DecidableEq, Repr

/-- What an unexpected value says. -/
def Unexpected.text : Unexpected → String
  | .notAnObject kind => "expected an object, got " ++ kind
  | .nameNotText kind => "a component name must be text, got " ++ kind
  | .notIterable kind => "expected a list, got " ++ kind
  | .notComparable kind => "expected a name, got " ++ kind
  | .notSortable => "values of different kinds have no order"
  | .templateNotText kind => "a path template must be text, got " ++ kind
  | .depthBelowOne depth => "depth must be at least 1 or None, got " ++ toString depth
  | .cannotInstantiate name => "cannot make a handler of " ++ name ++ " without arguments"
  | .emptyModuleName => "Empty module name"
  | .relativeModuleName name => "no package is given for the relative module " ++ name
  | .refusedPath path fault => fault.text ++ ": " ++ path
  | .notUtf8 path => path ++ " is not UTF-8"
  | .unreadable error => error.text
  | .numberTooLong => "a whole number has too many digits to be written"
  | .noValue fault => fault.text
  | .invalidAddress url => url ++ " is not a valid address"
  | .headerNotAscii text => "a header is not ASCII: " ++ text
  | .undecodable fault => fault.text
  | .unwritable fault => fault.text
  | .unknownFormat name => Text.quoted name ++ " is not a valid output format"
  | .markup fault => fault.text

/-! ### Failures -/

/-- The classes of failures that a message alone describes. -/
inductive Category where
  /-- Any failure. -/
  | general
  /-- Wrong use. -/
  | usage
  /-- A document that cannot be read. -/
  | document
  /-- Settings that cannot be read. -/
  | config
  /-- A document that cannot be compiled. -/
  | compile
  deriving DecidableEq, Repr

/-- The exit code of a class of failures. -/
def Category.exitCode : Category → Int
  | .general => 1
  | .usage => 2
  | .document => 7
  | .config => 1
  | .compile => 8

/-- What stops the program. -/
inductive Failure where
  /-- A failure raised by a caller, with an exit code of its own if one is given. -/
  | custom (category : Category) (text : String) (code : Option Int)
  /-- The handlers cannot be found. -/
  | usage (problem : UsageProblem)
  /-- The document cannot be read. -/
  | document (problem : DocumentProblem)
  /-- The settings cannot be read. -/
  | config (problem : ConfigProblem)
  /-- References to nothing, as written. -/
  | unresolved (references : List Pointer)
  /-- References in a circle, ending with the pointer that occurs a second time. -/
  | cyclic (chain : List Pointer)
  /-- A part of the document cannot be compiled. -/
  | malformed (problem : SchemaProblem) (location : Location)
  /-- Operations that no handler serves. -/
  | missing (operations : List MissingHandler)
  /-- A value of a shape that is not checked for. -/
  | unexpected (cause : Unexpected)
  deriving DecidableEq, Repr

/-- The text of a tree in a message. -/
def Tree.spelled (tree : Tree) : Except Failure String :=
  if tree.isSpellable then .ok tree.display else .error (.unexpected .numberTooLong)

/-- The text of a scalar in a message. -/
def Scalar.spelled (value : Scalar) : Except Failure String :=
  (Tree.scalar value).spelled

namespace Failure

/-- The failure of a problem at a place. Its message must be spellable. -/
def ofProblem (problem : SchemaProblem) (location : Location) : Failure :=
  if problem.isSpellable && location.isSpellable then .malformed problem location
  else .unexpected .numberTooLong

/-- The message of a failure. -/
def message : Failure → String
  | .custom _ text _ => text
  | .usage problem => problem.text
  | .document problem => problem.text
  | .config problem => problem.text
  | .unresolved references =>
    "Unresolved references remained in the document (" ++ toString references.length ++
      " orphan ref(s))"
  | .cyclic chain => "Cyclic reference between components: " ++ " -> ".intercalate chain
  | .malformed problem location =>
    if location.isTruthy then problem.text ++ " (at " ++ location.display ++ ")" else problem.text
  | .missing operations =>
    "Missing handler(s): " ++ ", ".intercalate (operations.map MissingHandler.label)
  | .unexpected cause => cause.text

/-- The report of a failure: a line for each offending item, or the message. -/
def report : Failure → String
  | .unresolved references =>
    "\n".intercalate
      (["Unresolved references remained in the document (orphan refs).", "Orphan refs found:"] ++
        references.map fun reference => "  => \"$ref\": \"" ++ reference ++ "\"")
  | .cyclic chain =>
    "\n".intercalate
      ("Cyclic reference between components:" :: chain.map fun pointer => "  => " ++ pointer)
  | .missing operations =>
    "\n".intercalate
      ("Some handlers are absent. Implement them before starting the service:" ::
        operations.map fun operation => "  !!! " ++ operation.describe)
  | failure => failure.message

/-- The exit code of a failure. -/
def exitCode : Failure → Int
  | .custom category _ code => code.getD category.exitCode
  | .usage _ => Category.usage.exitCode
  | .document _ => Category.document.exitCode
  | .config _ => Category.config.exitCode
  | .unresolved _ => Category.compile.exitCode
  | .cyclic _ => Category.compile.exitCode
  | .malformed .. => Category.compile.exitCode
  | .missing _ => 9
  | .unexpected _ => Category.general.exitCode

/-- Whether the failure is the program's own: it has a report and an exit code. -/
def isOwn : Failure → Bool
  | .unexpected _ => false
  | _ => true

/-- Whether the failure is of a document that was read but cannot be compiled. -/
def isCompileFailure : Failure → Bool
  | .unresolved _ => true
  | .cyclic _ => true
  | .malformed .. => true
  | .missing _ => true
  | _ => false

theorem exitCode_of_isCompileFailure {failure : Failure} (compile : failure.isCompileFailure = true) :
    failure.exitCode = 8 ∨ failure.exitCode = 9 := by
  cases failure <;> simp_all [isCompileFailure, exitCode, Category.exitCode]

end Failure

end RouteCompiler
