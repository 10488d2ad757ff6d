/-
**What validation finds wrong with a setting.**

* `IssueKind`: the causes, each with a code for programs and a text for people;
* `Issue`: a cause with the place of the value, a field and for a list the position in it.
-/

namespace RouteCompiler

/-- Why a value is no setting. -/
inductive IssueKind where
  /-- The settings as a whole are no object. -/
  | notAnObject
  /-- A field is unknown. -/
  | unknownField
  /-- The name of a field is no text. -/
  | nameNotText
  /-- A value is no whole number. -/
  | notAnInteger
  /-- A text spells no whole number. -/
  | unparsableInteger
  /-- A number has a fraction. -/
  | fractionalInteger
  /-- A number is too large for a whole number. -/
  | integerTooLarge
  /-- A number is infinite or no number. -/
  | notFinite
  /-- A depth is below one. -/
  | depthBelowOne
  /-- A value is no truth value. -/
  | notABoolean
  /-- A text or whole number spells no truth value. -/
  | unparsableBoolean
  /-- A value is no list. -/
  | notAList
  /-- A value is no text. -/
  | notAText
  /-- No media type is listed. -/
  | noMediaType
  deriving DecidableEq, Repr

/-- The code of a cause. -/
def IssueKind.code : IssueKind → String
  | .notAnObject => "model_type"
  | .unknownField => "extra_forbidden"
  | .nameNotText => "invalid_key"
  | .notAnInteger => "int_type"
  | .unparsableInteger => "int_parsing"
  | .fractionalInteger => "int_from_float"
  | .integerTooLarge => "int_parsing_size"
  | .notFinite => "finite_number"
  | .depthBelowOne => "greater_than_equal"
  | .notABoolean => "bool_type"
  | .unparsableBoolean => "bool_parsing"
  | .notAList => "list_type"
  | .notAText => "string_type"
  | .noMediaType => "value_error"

/-- The text of a cause. -/
def IssueKind.text : IssueKind → String
  | .notAnObject => "Input should be a valid dictionary or instance of CompilerConfig"
  | .unknownField => "Extra inputs are not permitted"
  | .nameNotText => "Keys should be strings"
  | .notAnInteger => "Input should be a valid integer"
  | .unparsableInteger => "Input should be a valid integer, unable to parse string as an integer"
  | .fractionalInteger => "Input should be a valid integer, got a number with a fractional part"
  | .integerTooLarge => "Unable to parse input string as an integer, exceeded maximum size"
  | .notFinite => "Input should be a finite number"
  | .depthBelowOne => "Input should be greater than or equal to 1"
  | .notABoolean => "Input should be a valid boolean"
  | .unparsableBoolean => "Input should be a valid boolean, unable to interpret input"
  | .notAList => "Input should be a valid list"
  | .notAText => "Input should be a valid string"
  | .noMediaType => "Value error, json_media_types must list at least one media type"

/-- A cause and the place of the value that it concerns. -/
structure Issue where
  place : List String
  kind : IssueKind
  deriving DecidableEq, Repr

/-- One line of a report on settings. -/
def Issue.text (issue : Issue) : String :=
  ".".intercalate issue.place ++ ": " ++ issue.kind.text

end RouteCompiler
