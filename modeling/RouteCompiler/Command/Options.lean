/-
**Options on a command line.**

An option is a word that starts with a dash. A long one starts with two dashes and may carry its value
after an equals sign; short ones are single letters, which may be written together, the rest of the word
being the value of the first that takes one. Otherwise a value is the next word, whatever it looks like.
Two dashes alone end the options. Options may stand between the other words or only before them.

* `OptionRule`: an option that is understood;
* `Words`: the options in a list of words and the words that are left;
* `readWords`: the options and the other words of a command line, if they are understood.
-/

namespace RouteCompiler.Command

/-- An option that is understood: its spellings, the first of which names it, and whether it has a
value. -/
structure OptionRule where
  spellings : List String
  takesValue : Bool
  deriving Repr

/-- The name of an option: its first spelling. -/
def OptionRule.name (rule : OptionRule) : String :=
  rule.spellings.headD ""

/-- The options in a list of words in order, each with its value if it has one, and the other words. -/
structure Words where
  options : List (String × Option String)
  others : List String
  deriving Repr

namespace Words

/-- An option before other words. -/
def withOption (name : String) (value : Option String) (words : Words) : Words :=
  { words with options := (name, value) :: words.options }

/-- A word that is no option before other words. -/
def withOther (word : String) (words : Words) : Words :=
  { words with others := word :: words.others }

/-- The last value of an option. -/
def value? (words : Words) (name : String) : Option String :=
  ((words.options.filter (·.1 == name)).getLast?).bind (·.2)

/-- Whether an option occurs. -/
def has (words : Words) (name : String) : Bool :=
  words.options.any (·.1 == name)

/-- The option among several that occurs last. -/
def last? (words : Words) (names : List String) : Option String :=
  ((words.options.map (·.1)).filter names.contains).getLast?

/-- The option among several that occurs first. -/
def first? (words : Words) (names : List String) : Option String :=
  (words.options.map (·.1)).find? names.contains

end Words

/-- The rule for a spelling of an option. -/
def ruleOf? (rules : List OptionRule) (spelling : String) : Option OptionRule :=
  rules.find? (·.spellings.contains spelling)

/-- Whether a word is an option. -/
def isOption (word : String) : Bool :=
  match word.toList with
  | '-' :: _ :: _ => true
  | _ => false

/-- A long option: its spelling and the value after an equals sign. -/
def splitLong (word : String) : String × Option String :=
  let chars := word.toList
  let after := chars.dropWhile (· != '=')
  (String.ofList (chars.takeWhile (· != '=')), after.tail?.map String.ofList)

/-- What a word of short options holds: the options without a value, and the option with a value, which
follows in the same word or is still to come. Nothing if a letter is not understood. -/
def readShort (rules : List OptionRule) :
    List Char → Option (List String × Option (String × Option String))
  | [] => some ([], none)
  | c :: rest =>
    match ruleOf? rules (String.ofList ['-', c]) with
    | none => none
    | some rule =>
      if rule.takesValue then
        some ([], some (rule.name, if rest.isEmpty then none else some (String.ofList rest)))
      else (readShort rules rest).map fun (names, last) => (rule.name :: names, last)

/-- What an option in a word stands for: the options without a value, and the option with a value, which
is written in the word or is still to come. Nothing if it is not understood. -/
def readOption (rules : List OptionRule) (word : String) :
    Option (List String × Option (String × Option String)) :=
  let (spelling, value) := splitLong word
  if word.startsWith "--" then
    match ruleOf? rules spelling, value with
    | none, _ => none
    | some rule, value =>
      if rule.takesValue then some ([], some (rule.name, value))
      else if value.isNone then some ([rule.name], none)
      else none
  else readShort rules word.toList.tail

/-- The options and the other words of a command line, nothing if an option is not understood or lacks
its value. Unless options may stand between other words, the first other word ends them. -/
def readWords (rules : List OptionRule) (between : Bool) : List String → Option Words
  | [] => some ⟨[], []⟩
  | "--" :: rest => some ⟨[], rest⟩
  | word :: rest =>
    if isOption word then do
      let (names, last) ← readOption rules word
      let before := fun (words : Words) => names.foldr (fun name => Words.withOption name none) words
      match last, rest with
      | none, rest => (readWords rules between rest).map before
      | some (name, some value), rest =>
        (readWords rules between rest).map fun words => before (words.withOption name (some value))
      | some (_, none), [] => none
      | some (name, none), value :: rest =>
        (readWords rules between rest).map fun words => before (words.withOption name (some value))
    else if between then (readWords rules between rest).map (Words.withOther word)
    else some ⟨[], word :: rest⟩

end RouteCompiler.Command
