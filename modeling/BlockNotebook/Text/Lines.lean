import BlockNotebook.Text.CodePoint
/-!
Texts cut into lines.
-/

namespace BlockNotebook.Text

/-- The characters that end a line of plain text; a carriage return and a line feed end one together. -/
def isLineEnd (c : Char) : Bool :=
  c == '\n' || c == '\r' || c == '\x0b' || c == '\x0c' || c == '\x1c' || c == '\x1d' ||
    c == '\x1e' || c == '\u0085' || c == '\u2028' || c == '\u2029'

/-- The lines of a text after the part `line` of its first line, which is held backwards. -/
def linesFrom (line : Text) : Text → List Text
  | [] => if line.isEmpty then [] else [line.reverse]
  | .char '\r' :: .char '\n' :: rest => line.reverse :: linesFrom [] rest
  | c :: rest =>
    if c.satisfies isLineEnd then line.reverse :: linesFrom [] rest else linesFrom (c :: line) rest

/-- The lines of a text, without their ends. A text that ends in a line end has no empty last line. -/
def lines (t : Text) : List Text := linesFrom [] t

/-- Line ends of every platform become a line feed, as when a file is read as text. -/
def normalizeNewlines : Text → Text
  | [] => []
  | .char '\r' :: .char '\n' :: rest => .char '\n' :: normalizeNewlines rest
  | .char '\r' :: rest => .char '\n' :: normalizeNewlines rest
  | c :: rest => c :: normalizeNewlines rest

/-- The parts joined with the separator between them. -/
def joinWith (sep : Text) : List Text → Text
  | [] => []
  | [part] => part
  | part :: rest => part ++ sep ++ joinWith sep rest

theorem joinWith_cons_cons (sep a b : Text) (rest : List Text) :
    joinWith sep (a :: b :: rest) = a ++ sep ++ joinWith sep (b :: rest) := rfl

end BlockNotebook.Text
