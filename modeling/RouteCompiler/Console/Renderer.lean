/-
**What a terminal shows.**

Where colours are allowed, messages, documents and tables go through a renderer that knows the terminal. It reads the
markup of a message, folds lines and draws tables, and it cannot carry out every markup. What it makes of a text is up
to it, so it is given to the program.

* `Renderer`: what is shown of messages, texts, documents and tables;
* `Renderer.plain`: the renderer of a place without styles.
-/

import RouteCompiler.Text.Markup

namespace RouteCompiler

/-- What is shown of what is written, with the line breaks at the end. -/
structure Renderer where
  /-- What is shown of a message with markup, unless the markup cannot be carried out. -/
  message : String → Except Text.MarkupFault String
  /-- What is shown of lines without markup. -/
  verbatim : String → String
  /-- What is shown of the text of a document. -/
  document : String → String
  /-- What is shown of a table with markup in its title, headers and cells, unless it cannot be carried out. -/
  table : (title : Option String) → (headers : List String) → (rows : List (List String)) →
    Except Text.MarkupFault String
  /-- What is left to be said of a failure when its message cannot be shown. -/
  backtrace : String → String

/-- A line of cells. -/
def lineOfCells (cells : List String) : String :=
  "\t".intercalate cells ++ "\n"

namespace Renderer

/-- The renderer of a place without styles: tags are taken out, and everything else stays as it is. -/
def plain : Renderer where
  message text := (Text.Markup.plain text).map (· ++ "\n")
  verbatim text := text ++ "\n"
  document text := text ++ "\n"
  table title headers rows := do
    let lines ← ((title.map ([·])).toList ++ headers :: rows).mapM (·.mapM Text.Markup.plain)
    return String.join (lines.map lineOfCells)
  backtrace text := text ++ "\n"

instance : Inhabited Renderer :=
  ⟨plain⟩

end Renderer

end RouteCompiler
