/-
**Pointers to components.**

A component is addressed by the name of its group and its own name. A pointer joins the two with
slashes, so a slash inside a name is written `~1` and a tilde `~0`. The tildes are replaced before the
slashes are, so no tilde that stands for a slash is replaced again, and each character of a name is
written by itself.

* `replaceChar`: a text with one of its characters replaced;
* `escape`: the written form of a name, made by two replacements;
* `escape_eq_flatMap`: the same, made character by character;
* `unescape_escape`: a name is read back from its written form;
* `slash_not_mem_escape`: the written form holds no slash;
* `componentPointer`: the pointer of a component.
-/

import RouteCompiler.Failure

namespace RouteCompiler

/-! ### Names inside pointers -/

/-- A text with every occurrence of a character replaced by a text. -/
def replaceChar (old : Char) (new chars : List Char) : List Char :=
  chars.flatMap fun c => if c = old then new else [c]

/-- A name inside a pointer: tildes are escaped, and then slashes are. -/
def escape (name : List Char) : List Char :=
  replaceChar '/' ['~', '1'] (replaceChar '~' ['~', '0'] name)

/-- The name that a written form stands for. -/
def unescape : List Char → List Char
  | '~' :: '0' :: rest => '~' :: unescape rest
  | '~' :: '1' :: rest => '/' :: unescape rest
  | c :: rest => c :: unescape rest
  | [] => []

/-- The written form of a character of a name. -/
def escapedChar (c : Char) : List Char :=
  if c = '~' then ['~', '0'] else if c = '/' then ['~', '1'] else [c]

/-- What the first replacement makes of a character is left alone by the second, unless it is a slash. -/
theorem replaceChar_slash_of_tilde (c : Char) :
    replaceChar '/' ['~', '1'] (if c = '~' then ['~', '0'] else [c]) = escapedChar c := by
  unfold escapedChar
  split
  · rfl
  · simp [replaceChar]

/-- **The two replacements write a name character by character.** -/
theorem escape_eq_flatMap (name : List Char) : escape name = name.flatMap escapedChar := by
  unfold escape
  rw [replaceChar, replaceChar, List.flatMap_assoc]
  exact congrArg (List.flatMap · name) (funext replaceChar_slash_of_tilde)

/-- In the other order a slash would be escaped twice. -/
example : replaceChar '~' ['~', '0'] (replaceChar '/' ['~', '1'] ['/']) = ['~', '0', '1'] := by
  decide

theorem unescape_escapedChar (c : Char) (rest : List Char) : unescape (escapedChar c ++ rest) = c :: unescape rest := by
  unfold escapedChar
  split
  · rename_i tilde
    rw [tilde]
    rfl
  · rename_i noTilde
    split
    · rename_i slash
      rw [slash]
      rfl
    · rw [List.singleton_append, unescape]
      · exact fun _ equal => absurd equal noTilde
      · exact fun _ equal => absurd equal noTilde

theorem unescape_escape (name : List Char) : unescape (escape name) = name := by
  rw [escape_eq_flatMap]
  induction name with
  | nil => rfl
  | cons c rest ih => rw [List.flatMap_cons, unescape_escapedChar, ih]

theorem slash_not_mem_escape (name : List Char) : '/' ∉ escape name := by
  intro slash
  obtain ⟨between, _, written⟩ := List.mem_flatMap.mp slash
  -- the second replacement leaves no slash
  split at written
  · exact absurd written (by decide)
  · rename_i noSlash
    exact noSlash (List.mem_singleton.mp written).symm

/-! ### Pointers -/

/-- The start of every pointer to a component. -/
def componentsRoot : String :=
  "#/components/"

/-- The pointer of a component. -/
def componentPointer (group key : String) : Pointer :=
  componentsRoot ++ String.ofList (escape group.toList) ++ "/" ++ String.ofList (escape key.toList)

end RouteCompiler
