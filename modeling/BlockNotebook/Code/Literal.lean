import BlockNotebook.Text.CodePoint
/-!
Texts as string literals of generated code.
-/

namespace BlockNotebook.Code

/-- One code point inside single quotes. -/
def escapePoint (c : CodePoint) : Text :=
  if c == '\\' then ['\\', '\\']
  else if c == '\'' then ['\\', '\'']
  else if c == '\n' then ['\\', 'n']
  else [c]

/-- The text between single quotes; backslashes, quotes and line feeds are escaped. -/
def literal (t : Text) : Text := Text.ofChars ['\''] ++ t.flatMap escapePoint ++ Text.ofChars ['\'']

end BlockNotebook.Code
