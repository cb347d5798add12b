import BlockNotebook.Console.Shortcode
/-!
Markup: tags in brackets that open and close styles.

A style shows only on a terminal, so a rendered text is the text without its tags. A
backslash in front of a tag makes it text; two make one backslash. `escape` writes a text
so that its brackets stay text.
-/

namespace BlockNotebook.Console.Markup

open Text

/-- The characters that the inside of a tag starts with. -/
def startsTag (c : Char) : Bool := ('a' ≤ c && c ≤ 'z') || c == '#' || c == '/' || c == '@'

/-- The inside of the tag that a text goes on with after an opening bracket. -/
def tagInside? : Text → Option Text
  | [] => none
  | c :: rest =>
    if c.satisfies startsTag then
      let more := rest.takeWhile fun c => c != .char '[' && c != .char ']'
      match rest.drop more.length with
      | .char ']' :: _ => some (c :: more)
      | _ => none
    else none

/-- The inside of the tag that starts with a code point and goes on with a text. -/
def tagAt? (c : CodePoint) (rest : Text) : Option Text :=
  if c == .char '[' then tagInside? rest else none

def backslashes (n : Nat) : Text := List.replicate n (.char '\\')

/-! ## Writing -/

/-- The rest of a text that follows `slashes` backslashes, with a backslash in front of its tags and the
backslashes there doubled. The next `skip` code points belong to a tag and are written as they are. -/
def escapeFrom (slashes skip : Nat) : Text → Text
  | [] => backslashes slashes
  | c :: rest =>
    match skip with
    | skip + 1 => c :: escapeFrom 0 skip rest
    | 0 =>
      if c == .char '\\' then escapeFrom (slashes + 1) 0 rest
      else
        match tagAt? c rest with
        | some inside => backslashes (2 * slashes + 1) ++ c :: escapeFrom 0 (inside.length + 1) rest
        | none => backslashes slashes ++ c :: escapeFrom 0 0 rest

/-- A text with a backslash in front of its tags. -/
def escapeTags (t : Text) : Text := escapeFrom 0 0 t

/-- A single backslash at the end would take the tag that follows for text, so it is doubled. -/
def closeEnd (t : Text) : Text :=
  match t.reverse with
  | .char '\\' :: .char '\\' :: _ => t
  | .char '\\' :: _ => t ++ "\\"
  | _ => t

/-- A text written so that it is no markup. -/
def escape (t : Text) : Text := closeEnd (escapeTags t)

/-! ## Reading -/

inductive Piece
  | text (t : Text)
  /-- A tag: what stands in its brackets, and the place of the opening one. -/
  | tag (inside : Text) (position : Nat)
  deriving DecidableEq, Repr

/-- The pieces of the backslashes in front of a tag, and of the tag, whose bracket is at a position. -/
def tagPieces (slashes : Nat) (inside : Text) (position : Nat) : List Piece :=
  .text (backslashes (slashes / 2)) ::
    [if slashes % 2 == 1 then .text ("[" ++ inside ++ "]") else .tag inside position]

/-- The pieces with more text in front of the first one. -/
def addText (t : Text) : List Piece → List Piece
  | .text more :: rest => .text (t ++ more) :: rest
  | ps => .text t :: ps

/-- The pieces of the rest of a text, which starts at a position of the whole and follows `slashes`
backslashes. The next `skip` code points belong to a tag that is read already. -/
def piecesFrom (position slashes skip : Nat) : Text → List Piece
  | [] => [.text (backslashes slashes)]
  | c :: rest =>
    match skip with
    | skip + 1 => piecesFrom (position + 1) 0 skip rest
    | 0 =>
      if c == .char '\\' then piecesFrom (position + 1) (slashes + 1) 0 rest
      else
        match tagAt? c rest with
        | some inside =>
          .text [] :: tagPieces slashes inside position ++
            piecesFrom (position + 1) 0 (inside.length + 1) rest
        | none => addText (backslashes slashes ++ [c]) (piecesFrom (position + 1) 0 0 rest)

def pieces (t : Text) : List Piece := piecesFrom 0 0 0 t

/-- Why markup cannot be rendered. -/
inductive Fault
  | notOpen (inside : Text) (position : Nat)
  | nothingOpen (position : Nat)
  deriving DecidableEq, Repr

def Fault.message : Fault → Text
  | .notOpen inside position =>
    "closing tag '[" ++ inside ++ s!"]' at position {position} doesn't match any open tag"
  | .nothingOpen position => s!"closing tag '[/]' at position {position} has nothing to close"

/-- The name of a style, without regard to blanks around it and to case. -/
def styleName (t : Text) : Text := lower (trim (·.satisfies isBlank) t)

/-- Text between tags, where a backslash may still stand before a bracket. -/
def plain : Text → Text
  | .char '\\' :: .char '[' :: rest => .char '[' :: plain rest
  | c :: rest => c :: plain rest
  | [] => []

/-- The pieces rendered while the styles `opened` are open, the last one first. -/
def renderPieces (opened : List Text) : List Piece → Except Fault Text
  | [] => .ok []
  | .text t :: rest => (renderPieces opened rest).map (Emoji.replaceCodes (plain t) ++ ·)
  | .tag inside position :: rest =>
    match inside.takeWhile (· != .char '=') with
    | .char '/' :: name =>
      if (trim (·.satisfies isBlank) name).isEmpty then
        match opened with
        | [] => .error (.nothingOpen position)
        | _ :: outer => renderPieces outer rest
      else if opened.contains (styleName name) then renderPieces (opened.erase (styleName name)) rest
      else .error (.notOpen inside position)
    | name => renderPieces (styleName name :: opened) rest

/-- The text of markup, without its tags. -/
def render (t : Text) : Except Fault Text := renderPieces [] (pieces t)

end BlockNotebook.Console.Markup
