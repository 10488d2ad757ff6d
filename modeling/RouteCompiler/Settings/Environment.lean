/-
**Settings in the environment.**

Each setting has a variable. A variable that is not set or is empty sets nothing. A depth is a number or
a word for no limit, a truth value is one of a few words in any case, and media types are separated by
commas.

* `variableName`: the variable of a setting;
* `depthOfText`, `booleanOfWord`, `mediaTypesOfText`: what the texts stand for;
* `ofEnvironment`: the settings that the environment gives.
-/

import RouteCompiler.Failure
import RouteCompiler.Settings.Basic
import RouteCompiler.Text.Blank
import RouteCompiler.Text.Digits

namespace RouteCompiler.Settings

/-! ### Texts -/

/-- The variable of a setting. -/
def variableName (setting : String) : String :=
  "SPECROUTES_" ++ Text.upper setting

/-- A text as it is compared with words: without blanks around it, in lower case. -/
def wordOf (text : String) : String :=
  Text.lower (Text.strip text)

/-- The words for no limit. -/
def unlimitedWords : List String :=
  ["all", "none", "recursive", "unlimited"]

/-- The depth that a text stands for, absent when there is no limit. -/
def depthOfText (name text : String) : Except ConfigProblem Tree :=
  if wordOf text ∈ unlimitedWords then .ok .null
  else
    match Text.readInteger? (wordOf text).toList with
    | some depth => .ok (.int depth)
    | none => .error (.invalidDepth name text)

/-- The words for yes in the environment. -/
def enabledWords : List String :=
  ["1", "true", "yes", "on"]

/-- The words for no in the environment. -/
def disabledWords : List String :=
  ["0", "false", "no", "off"]

/-- The truth value that a text stands for. -/
def booleanOfWord (name text : String) : Except ConfigProblem Tree :=
  if wordOf text ∈ enabledWords then .ok (.bool true)
  else if wordOf text ∈ disabledWords then .ok (.bool false)
  else .error (.invalidBoolean name text)

/-- The media types in a text. Empty ones are left out. -/
def mediaTypesOfText (text : String) : Tree :=
  .list (((text.splitOn ",").map Text.strip).filter (fun type => !type.isEmpty) |>.map .str)

/-! ### Variables -/

/-- What the environment gives for a setting: an entry, or nothing if its variable is not set. -/
def environmentEntry (environment : List (String × String)) (setting : String)
    (read : (name text : String) → Except ConfigProblem Tree) : Except ConfigProblem Entries :=
  match OrderedMap.get? environment (variableName setting) with
  | none => .ok []
  | some text =>
    if text.isEmpty then .ok []
    else (read (variableName setting) text).map fun value => [(.str setting, value)]

/-- The settings that the environment gives. -/
def ofEnvironment (environment : List (String × String)) : Except ConfigProblem Entries := do
  let depth ← environmentEntry environment filterDepthName depthOfText
  let strict ← environmentEntry environment strictSchemasName booleanOfWord
  let derive ← environmentEntry environment deriveRequiredName booleanOfWord
  let types ← environmentEntry environment jsonMediaTypesName fun _ text => .ok (mediaTypesOfText text)
  return depth ++ strict ++ derive ++ types

end RouteCompiler.Settings
