import BlockNotebook.Console.Columns
import BlockNotebook.Console.Markup
import BlockNotebook.Text.Lines
/-!
Messages as they are printed: without control characters that move the cursor, and with
blanks up to the next stop for tabs. Lines are never broken.
-/

namespace BlockNotebook.Console

open Text

/-- The characters that are not printed: bell, backspace, tabs down, feeds and returns. -/
def isDropped (c : Char) : Bool :=
  c == '\x07' || c == '\x08' || c == '\x0b' || c == '\x0c' || c == '\r'

/-- The columns between two tab stops. -/
def tabWidth : Nat := 8

/-- The part of a line in front of a tab, and blanks up to the next stop. It starts at a stop itself. The first
blank counts as what follows the part: after a joiner it takes up no column. -/
def upToStop (part : Text) : Text :=
  let shown := part ++ " "
  shown ++ List.replicate ((tabWidth - width shown % tabWidth) % tabWidth) (.char ' ')

/-- A line with blanks for its tabs, from its parts between them. -/
def joinAtStops : List Text → Text
  | [] => []
  | [last] => last
  | part :: rest => upToStop part ++ joinAtStops rest

/-- A text with blanks for its tabs. -/
def expandTabs (t : Text) : Text :=
  joinWith "\n" ((split (.char '\n') t).map fun line => joinAtStops (split (.char '\t') line))

/-- The text that markup prints, with a line feed at its end. -/
def print (markup : Text) : Except Markup.Fault Text :=
  (Markup.render markup).map fun t => expandTabs (t.filter (!·.satisfies isDropped)) ++ "\n"

end BlockNotebook.Console
