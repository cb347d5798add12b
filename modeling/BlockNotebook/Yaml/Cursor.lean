import BlockNotebook.Yaml.Fault
/-!
A reading position in a YAML text: the rest of the text and the place it starts at.

The end of the text reads as NUL, which no YAML text holds.
-/

namespace BlockNotebook.Yaml

structure Cursor where
  rest : List Char
  mark : Mark
  deriving Inhabited

namespace Cursor

/-- The start of a text. -/
def start (cs : List Char) : Cursor := ⟨cs, ⟨0, 0, 0⟩⟩

def column (cur : Cursor) : Nat := cur.mark.column
def line (cur : Cursor) : Nat := cur.mark.line
def index (cur : Cursor) : Nat := cur.mark.index

/-- The character some way ahead. -/
def peek (cur : Cursor) (ahead : Nat) : Char := cur.rest.getD ahead '\x00'

/-- The next character. -/
def next (cur : Cursor) : Char := cur.peek 0

/-- The place after a character that is followed by another. -/
def markAfter (m : Mark) (c following : Char) : Mark :=
  if c == '\n' || c == '\u0085' || c == '\u2028' || c == '\u2029' || (c == '\r' && following != '\n') then
    ⟨m.index + 1, m.line + 1, 0⟩
  else if c == '\uFEFF' then ⟨m.index + 1, m.line, m.column⟩
  else ⟨m.index + 1, m.line, m.column + 1⟩

/-- Past the next character. -/
def forward (cur : Cursor) : Cursor :=
  match cur.rest with
  | [] => cur
  | c :: rest => ⟨rest, markAfter cur.mark c (rest.getD 0 '\x00')⟩

/-- Past a number of characters. -/
def forwardBy (cur : Cursor) : Nat → Cursor
  | 0 => cur
  | n + 1 => cur.forward.forwardBy n

/-- The longest run of characters of a class, and the position after it. -/
def span (cur : Cursor) (p : Char → Bool) : List Char × Cursor :=
  let run := cur.rest.takeWhile p
  (run, cur.forwardBy run.length)

/-- Past the characters of a class. -/
def skip (cur : Cursor) (p : Char → Bool) : Cursor := (cur.span p).2

def skipSpaces (cur : Cursor) : Cursor := cur.skip (· == ' ')

/-- To the end of the line. -/
def skipLine (cur : Cursor) : Cursor := cur.skip (!isBreak ·)

/-- Past a line end. Those of the usual platforms, and the next-line character, read as a line feed. -/
def lineBreak (cur : Cursor) : Option Char × Cursor :=
  let c := cur.next
  if c == '\r' && cur.peek 1 == '\n' then (some '\n', cur.forwardBy 2)
  else if c == '\r' || c == '\n' || c == '\u0085' then (some '\n', cur.forward)
  else if c == '\u2028' || c == '\u2029' then (some c, cur.forward)
  else (none, cur)

/-- Three hyphens or three points that stand alone, as between documents. -/
def atSeparator (cur : Cursor) : Bool :=
  let mark (c : Char) : Bool := cur.peek 0 == c && cur.peek 1 == c && cur.peek 2 == c
  let after := cur.peek 3
  (mark '-' || mark '.') && (isBreakOrEnd after || after == ' ' || after == '\t')

end Cursor

/-- A space, a line end, or the end of the text. -/
def isGap (c : Char) : Bool := c == ' ' || isBreakOrEnd c

/-- A space, a tab, a line end, or the end of the text. -/
def isWideGap (c : Char) : Bool := c == '\t' || isGap c

end BlockNotebook.Yaml
