/-
**The parts of a path template.**

A text is cut into literals and variables in one way only. A variable is a pair of braces with no brace between
them, and a literal holds no variable; which braces are literal text follows from that alone. The scan finds these
parts: after an opening brace it holds back the characters of a name, and gives them to the literal when another
opening brace comes first or the text ends. So the routing pattern and the names of the variables are read off the
same parts, whatever stray, nested or empty braces a text has.

* `Template.BraceFree`, `Template.Plain`: names of variables, and literals;
* `Template.Decomposes`: a template cuts a text into its parts;
* `Template.decomposes_ofText`: the scan does so;
* `Template.scan_of_decomposes`: no other template does;
* `Template.parts_of_text`: what becomes of the parts of a text.
-/

import RouteCompiler.Route.Template

namespace RouteCompiler.Template

/-! ### Names and literals -/

/-- No brace stands in a name. -/
def BraceFree (name : List Char) : Prop :=
  '{' ∉ name ∧ '}' ∉ name

instance (name : List Char) : Decidable (BraceFree name) :=
  inferInstanceAs (Decidable ('{' ∉ name ∧ '}' ∉ name))

/-- No variable stands in a literal. -/
def Plain (literal : List Char) : Prop :=
  ∀ name, BraceFree name → ¬ braced name <:+: literal

/-- A brace of either kind. -/
def isBrace (c : Char) : Bool :=
  c == '{' || c == '}'

theorem braceFree_iff (name : List Char) : BraceFree name ↔ ∀ c ∈ name, isBrace c = false := by
  simp only [BraceFree, isBrace, Bool.or_eq_false_iff, beq_eq_false_iff_ne]
  constructor
  · intro free c member
    exact ⟨fun same => free.1 (same ▸ member), fun same => free.2 (same ▸ member)⟩
  · intro other
    exact ⟨fun member => (other _ member).1 rfl, fun member => (other _ member).2 rfl⟩

theorem braceFree_nil : BraceFree [] := by
  simp [BraceFree]

theorem BraceFree.concat {name : List Char} (free : BraceFree name) {c : Char} (notOpening : c ≠ '{')
    (notClosing : c ≠ '}') : BraceFree (name ++ [c]) := by
  simp only [BraceFree, List.mem_append, List.mem_singleton, not_or]
  exact ⟨⟨free.1, notOpening.symm⟩, ⟨free.2, notClosing.symm⟩⟩

/-- An opening brace in front of a text starts a variable when the first brace of the text is a closing one. -/
theorem braced_prefix_iff (chars : List Char) :
    (∃ name, BraceFree name ∧ braced name <+: '{' :: chars) ↔ chars.find? isBrace = some '}' := by
  rw [List.find?_eq_some_iff_append]
  constructor
  · rintro ⟨name, free, rest, same⟩
    refine ⟨rfl, name, rest, ?_, fun c member => ?_⟩
    · simpa [braced] using same.symm
    · simp [(braceFree_iff name).mp free c member]
  · rintro ⟨_, name, rest, rfl, free⟩
    refine ⟨name, (braceFree_iff name).mpr fun c member => ?_, rest, by simp [braced]⟩
    simpa using free c member

theorem plain_nil : Plain [] := by
  intro name _ inside
  simp [braced] at inside

theorem plain_cons_iff (c : Char) (chars : List Char) :
    Plain (c :: chars) ↔ (c = '{' → chars.find? isBrace ≠ some '}') ∧ Plain chars := by
  constructor
  · intro plain
    refine ⟨?_, fun name free inside => plain name free (List.infix_cons inside)⟩
    rintro rfl closes
    obtain ⟨name, free, starts⟩ := (braced_prefix_iff chars).mpr closes
    exact plain name free starts.isInfix
  · rintro ⟨opens, plain⟩ name free inside
    rcases List.infix_cons_iff.mp inside with starts | further
    · have opening : c = '{' := (List.cons_prefix_cons.mp starts).1.symm
      subst opening
      exact opens rfl ((braced_prefix_iff chars).mp ⟨name, free, starts⟩)
    · exact plain name free further

/-- A part of a literal is one. -/
theorem Plain.inner {part whole : List Char} (plain : Plain whole) (inside : part <:+: whole) : Plain part :=
  fun name free further => plain name free (further.trans inside)

/-- Text without closing braces in front of a literal that does not close a brace makes a literal. -/
theorem Plain.append {front chars : List Char} (noClosing : '}' ∉ front) (opens : chars.find? isBrace ≠ some '}')
    (plain : Plain chars) : Plain (front ++ chars) := by
  induction front with
  | nil => exact plain
  | cons c rest ih =>
    have further : '}' ∉ rest := fun member => noClosing (List.mem_cons_of_mem _ member)
    refine (plain_cons_iff c (rest ++ chars)).mpr ⟨fun _ closes => ?_, ih further⟩
    rw [List.find?_append] at closes
    cases first : rest.find? isBrace with
    | none =>
      rw [first, Option.none_or] at closes
      exact opens closes
    | some brace =>
      rw [first, Option.some_or, Option.some.injEq] at closes
      exact further (closes ▸ List.mem_of_find?_eq_some first)

/-! ### Templates of a text -/

/-- A template cuts a text into literals and, between them, variables in braces. -/
structure Decomposes (template : Template) (chars : List Char) : Prop where
  /-- The text is the first literal and then each variable, in braces, with the literal after it. -/
  written : chars = template.leading ++ template.groups.flatMap fun group => '{' :: (group.1 ++ '}' :: group.2)
  /-- There is no brace in the name of a variable. -/
  names : ∀ group ∈ template.groups, BraceFree group.1
  /-- There is no variable in the first literal. -/
  leading : Plain template.leading
  /-- There is no variable in a further literal. -/
  literals : ∀ group ∈ template.groups, Plain group.2

theorem text_eq (template : Template) : template.text =
    template.leading ++ template.groups.flatMap fun group => '{' :: (group.1 ++ '}' :: group.2) := by
  simp [text, render, braced]

/-! ### The scan finds the parts -/

/-- What is held back after an opening brace does not close another brace. -/
theorem find?_leading_scan_some (name chars : List Char) (free : BraceFree name) :
    (scan (some name) chars).leading.find? isBrace ≠ some '}' := by
  induction chars generalizing name with
  | nil => simp [scan, isBrace]
  | cons c rest ih =>
    by_cases closing : c = '}'
    · simp [scan, closing, addVariable]
    · by_cases opening : c = '{'
      · simp [scan, opening, addLiteral, isBrace]
      · rw [scan, if_neg closing, if_neg opening]
        exact ih _ (free.concat opening closing)

/-- The parts that the scan finds. An open brace has held back a name. -/
theorem parts_scan (pending : Option (List Char)) (chars : List Char) (held : ∀ name ∈ pending, BraceFree name) :
    (∀ group ∈ (scan pending chars).groups, BraceFree group.1 ∧ Plain group.2) ∧
      Plain (scan pending chars).leading := by
  fun_induction scan pending chars with
  | case1 => exact ⟨by simp, plain_nil⟩
  | case2 name =>
    have free : BraceFree name := held name rfl
    have alone : Plain (('{' :: name) ++ []) := Plain.append (by simp [free.2]) (by simp) plain_nil
    exact ⟨by simp, by simpa using alone⟩
  | case3 rest ih => exact ih (by simp [braceFree_nil])
  | case4 c rest other ih =>
    obtain ⟨groups, leading⟩ := ih (by simp)
    exact ⟨groups, (plain_cons_iff c _).mpr ⟨fun opening => absurd opening other, leading⟩⟩
  | case5 name rest ih =>
    obtain ⟨groups, leading⟩ := ih (by simp)
    exact ⟨List.forall_mem_cons.mpr ⟨⟨held name rfl, leading⟩, groups⟩, plain_nil⟩
  | case6 name rest _ ih =>
    have free : BraceFree name := held name rfl
    obtain ⟨groups, leading⟩ := ih (by simp [braceFree_nil])
    have next := find?_leading_scan_some [] rest braceFree_nil
    exact ⟨groups, Plain.append (by simp [free.2]) next leading⟩
  | case7 name c rest notClosing notOpening ih =>
    have free : BraceFree name := held name rfl
    exact ih (by simpa using free.concat notOpening notClosing)

/-- **The template of a text cuts it into its parts.** -/
theorem decomposes_ofText (text : String) : (ofText text).Decomposes text.toList := by
  obtain ⟨groups, leading⟩ := parts_scan none text.toList (by simp)
  refine ⟨?_, fun group member => (groups group member).1, leading, fun group member => (groups group member).2⟩
  rw [← text_eq, ofText, text_scan, heldBack, List.nil_append]

/-! ### No other template has these parts -/

/-- A literal is scanned as one, together with an open brace before it. What follows must not close a brace. -/
theorem scan_literal (pending : Option (List Char)) (literal rest : List Char)
    (held : ∀ name ∈ pending, BraceFree name) (plain : Plain (heldBack pending ++ literal))
    (next : rest = [] ∨ ∃ further, rest = '{' :: further) :
    scan pending (literal ++ rest) = addLiteral (heldBack pending ++ literal) (scan none rest) := by
  induction literal generalizing pending with
  | nil =>
    cases pending with
    | none => rfl
    | some name =>
      obtain rfl | ⟨further, rfl⟩ := next
      · simp [scan, heldBack, addLiteral]
      · simp [scan, heldBack]
  | cons c literal ih =>
    cases pending with
    | none =>
      have later : Plain literal := plain.inner (List.suffix_cons c literal).isInfix
      by_cases opening : c = '{'
      · subst opening
        simpa [scan, heldBack] using ih (some []) (by simp [braceFree_nil]) plain
      · simp [scan, opening, ih none (by simp) later, heldBack, addLiteral]
    | some name =>
      have free : BraceFree name := held name rfl
      have notClosing : c ≠ '}' := by
        rintro rfl
        exact plain name free ⟨[], literal, by simp [braced, heldBack]⟩
      by_cases opening : c = '{'
      · subst opening
        have later : Plain ('{' :: literal) := plain.inner ⟨'{' :: name, [], by simp [heldBack]⟩
        have scanned := ih (some []) (by simp [braceFree_nil]) later
        simp [scan, scanned, heldBack, addLiteral]
      · have same : heldBack (some (name ++ [c])) ++ literal = heldBack (some name) ++ c :: literal := by
          simp [heldBack]
        have scanned := ih (some (name ++ [c])) (by simpa using free.concat opening notClosing) (same ▸ plain)
        simp [scan, notClosing, opening, scanned, same]

/-- A name is scanned as a variable when the brace after it closes the one before it. -/
theorem scan_name (held name rest : List Char) (free : BraceFree name) :
    scan (some held) (name ++ '}' :: rest) = addVariable (held ++ name) (scan none rest) := by
  induction name generalizing held with
  | nil => simp [scan]
  | cons c name ih =>
    simp only [BraceFree, List.mem_cons, not_or] at free
    obtain ⟨⟨notOpening, noOpening⟩, notClosing, noClosing⟩ := free
    simp [scan, Ne.symm notOpening, Ne.symm notClosing, ih (held ++ [c]) ⟨noOpening, noClosing⟩]

/-- A variable is scanned as one. -/
theorem scan_braced (name rest : List Char) (free : BraceFree name) :
    scan none ('{' :: (name ++ '}' :: rest)) = addVariable name (scan none rest) := by
  simpa [scan] using scan_name [] name rest free

/-- **No other template cuts a text into its parts.** -/
theorem scan_of_decomposes {template : Template} {chars : List Char} (decomposes : template.Decomposes chars) :
    scan none chars = template := by
  obtain ⟨leading, groups⟩ := template
  obtain ⟨rfl, names, plain, literals⟩ := decomposes
  induction groups generalizing leading with
  | nil => simpa [scan, heldBack, addLiteral] using scan_literal none leading [] (by simp) plain (Or.inl rfl)
  | cons group groups ih =>
    obtain ⟨name, literal⟩ := group
    obtain ⟨free, names⟩ := List.forall_mem_cons.mp names
    obtain ⟨plainNext, literals⟩ := List.forall_mem_cons.mp literals
    have further := ih literal names plainNext literals
    have first := scan_literal none leading _ (by simp) plain (Or.inr ⟨name ++ '}' :: (literal ++ groups.flatMap
      fun group => '{' :: (group.1 ++ '}' :: group.2)), rfl⟩)
    rw [scan_braced name _ free, further] at first
    simpa [heldBack, addLiteral, addVariable] using first

theorem decomposes_iff (text : String) (template : Template) :
    template.Decomposes text.toList ↔ template = ofText text :=
  ⟨fun decomposes => (scan_of_decomposes decomposes).symm, fun same => same ▸ decomposes_ofText text⟩

/-! ### What becomes of the parts -/

/-- A routing pattern is shorter than the template by one closing brace for each variable. -/
theorem length_text (template : Template) :
    template.text.length = (template.render marked).length + template.groups.length := by
  obtain ⟨leading, groups⟩ := template
  induction groups with
  | nil => rfl
  | cons group groups ih =>
    simp only [text, render, List.flatMap_cons, List.length_append, List.length_cons, braced, marked,
      List.length_nil] at ih ⊢
    omega

theorem groups_eq_nil_iff (text : String) : (ofText text).groups = [] ↔ Plain text.toList := by
  have decomposes := decomposes_ofText text
  constructor
  · intro none
    have written := decomposes.written
    rw [none, List.flatMap_nil, List.append_nil] at written
    rw [written]
    exact decomposes.leading
  · intro plain
    have whole : Template.Decomposes ⟨text.toList, []⟩ text.toList := ⟨by simp, by simp, plain, by simp⟩
    rw [← (decomposes_iff text _).mp whole]

theorem url_eq_self_iff (text : String) : (ofText text).url = text ↔ (ofText text).groups = [] := by
  have written : (ofText text).text = text.toList := by rw [ofText, text_scan, heldBack, List.nil_append]
  have length := length_text (ofText text)
  constructor
  · intro same
    have sameChars : (ofText text).render marked = text.toList := by simpa [url] using congrArg String.toList same
    rw [written, sameChars] at length
    exact List.length_eq_zero_iff.mp (by omega)
  · intro none
    have same : (ofText text).render marked = (ofText text).text := by simp [Template.text, render, none]
    rw [url, same, written, String.ofList_toList]

/-- **A text has its parts in one way.** Its routing pattern has a colon and the name in the place of each variable,
everything else as it stands, and the names of the variables are listed in order. It is the text itself when there
is no variable in it, and only then. -/
theorem parts_of_text (text : String) :
    ∃ template : Template, (∀ other : Template, other.Decomposes text.toList ↔ other = template) ∧
      (ofText text).url =
        String.ofList (template.leading ++ template.groups.flatMap fun group => ':' :: (group.1 ++ group.2)) ∧
      (ofText text).variableNames = (template.groups.map fun group => String.ofList group.1) ∧
      ((ofText text).url = text ↔ Plain text.toList) ∧
      ((ofText text).variableNames = [] ↔ Plain text.toList) := by
  refine ⟨ofText text, decomposes_iff text, ?_, rfl, ?_, ?_⟩
  · simp [url, render, marked]
  · rw [url_eq_self_iff, groups_eq_nil_iff]
  · rw [variableNames, List.map_eq_nil_iff, groups_eq_nil_iff]

/-- An opening brace before another one is literal text, and so is a closing brace after a variable. -/
example : ofText "/a/\x7bb\x7bc\x7d\x7d/\x7b\x7d" =
    ⟨"/a/\x7bb".toList, [("c".toList, "\x7d/".toList), ([], [])]⟩ := by
  decide

end RouteCompiler.Template
