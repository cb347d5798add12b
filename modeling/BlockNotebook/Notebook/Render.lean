import BlockNotebook.Notebook.Compile
import BlockNotebook.Text.Blank
import BlockNotebook.Text.Lines
/-!
Compiled blocks as one script, or as one markdown document.

Parts are joined by blank lines; blocks of nothing but line feeds have no part.
-/

namespace BlockNotebook.Compiled

open Text

/-- The text of a block without the line feeds at its ends. -/
def body (c : Compiled) : Text := trim (· == .char '\n') c.text

/-- Text as a comment: a mark before every line, and no blanks at the end of a line. -/
def comment (t : Text) : Text :=
  joinWith ['\n'] ((lines t).map fun line => trimEnd (·.satisfies isBlank) ("# " ++ line))

/-- The part of a block in a script. -/
def scriptPart (c : Compiled) : Text :=
  match c.language with
  | .code => c.body
  | .markdown => comment c.body

/-- The part of a block in a document: code stands in a fence. -/
def documentPart (c : Compiled) : Text :=
  match c.language with
  | .code => "```python\n" ++ c.body ++ "\n```"
  | .markdown => c.body

/-- Parts with blank lines between, and a line feed at the end; nothing if there is no part. -/
def joinParts (parts : List Text) : Text :=
  if parts.isEmpty then [] else joinWith ['\n', '\n'] parts ++ Text.ofChars ['\n']

/-- The blocks that have a part. -/
def withText (cs : List Compiled) : List Compiled := cs.filter (!·.body.isEmpty)

/-- One script of all blocks. -/
def script (cs : List Compiled) : Text := joinParts ((withText cs).map scriptPart)

/-- One markdown document of all blocks. -/
def document (cs : List Compiled) : Text := joinParts ((withText cs).map documentPart)

end BlockNotebook.Compiled
