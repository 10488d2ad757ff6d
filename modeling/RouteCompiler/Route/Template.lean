/-
**Path templates.**

A path template is literal text with variables in braces. A variable is an opening brace, a name
without braces and a closing brace; any other brace is literal text. A routing pattern writes a
variable as a colon and its name.

* `Template.scan`: the literals and variables of a text, from left to right;
* `Template.url`: the routing pattern;
* `Template.variableNames`: the names in order;
* `Template.text_scan`: a template is the text that it was scanned from.
-/

namespace RouteCompiler

/-- A template: the text before the first variable, then each variable's name with the text after it. -/
structure Template where
  leading : List Char
  groups : List (List Char × List Char)
  deriving DecidableEq, Repr

namespace Template

/-- A template with literal text put before it. -/
def addLiteral (literal : List Char) (template : Template) : Template :=
  { template with leading := literal ++ template.leading }

/-- A template with a variable put before it. -/
def addVariable (name : List Char) (template : Template) : Template :=
  ⟨[], (name, template.leading) :: template.groups⟩

/-- The template of a text. After an opening brace, `pending` holds the characters that are the name if
a closing brace follows and literal text if not. -/
def scan : (pending : Option (List Char)) → List Char → Template
  | none, [] => ⟨[], []⟩
  | some name, [] => ⟨'{' :: name, []⟩
  | none, c :: rest =>
    if c = '{' then scan (some []) rest else addLiteral [c] (scan none rest)
  | some name, c :: rest =>
    if c = '}' then addVariable name (scan none rest)
    else if c = '{' then addLiteral ('{' :: name) (scan (some []) rest)
    else scan (some (name ++ [c])) rest

/-- The template of a text. -/
def ofText (text : String) : Template :=
  scan none text.toList

/-! ### What a template is written as -/

/-- The characters of a template with its variables written by `write`. -/
def render (write : List Char → List Char) (template : Template) : List Char :=
  template.leading ++ template.groups.flatMap fun group => write group.1 ++ group.2

/-- A variable in a template. -/
def braced (name : List Char) : List Char :=
  '{' :: (name ++ ['}'])

/-- A variable in a routing pattern. -/
def marked (name : List Char) : List Char :=
  ':' :: name

/-- The text of a template. -/
def text (template : Template) : List Char :=
  template.render braced

/-- The routing pattern of a template. -/
def url (template : Template) : String :=
  String.ofList (template.render marked)

/-- The names of the variables in order. -/
def variableNames (template : Template) : List String :=
  template.groups.map fun group => String.ofList group.1

theorem render_addLiteral (write : List Char → List Char) (literal : List Char) (template : Template) :
    (addLiteral literal template).render write = literal ++ template.render write := by
  simp [addLiteral, render]

theorem render_addVariable (write : List Char → List Char) (name : List Char) (template : Template) :
    (addVariable name template).render write = write name ++ template.render write := by
  simp [addVariable, render]

/-- The characters that an open brace holds back. -/
def heldBack : Option (List Char) → List Char
  | none => []
  | some name => '{' :: name

/-- Nothing of a text is lost: a template is written as the text that it was scanned from. -/
theorem text_scan (pending : Option (List Char)) (chars : List Char) :
    (scan pending chars).text = heldBack pending ++ chars := by
  fun_induction scan pending chars with
  | case1 => rfl
  | case2 name => simp [text, render, heldBack]
  | case3 rest ih => simp [ih, heldBack]
  | case4 c rest other ih =>
    rw [text] at ih ⊢
    rw [render_addLiteral, ih]
    simp [heldBack]
  | case5 name rest ih =>
    rw [text] at ih ⊢
    rw [render_addVariable, ih]
    simp [heldBack, braced]
  | case6 name rest notClosing ih =>
    rw [text] at ih ⊢
    rw [render_addLiteral, ih]
    simp [heldBack]
  | case7 name c rest notClosing notOpening ih => simp [ih, heldBack]

end Template

end RouteCompiler
