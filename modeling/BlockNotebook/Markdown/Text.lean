import BlockNotebook.Block.Basic
import BlockNotebook.Block.Fault
import BlockNotebook.Text.Blank
/-!
Cells of prose as markdown, and the text of a cell without the marks of its kind.
-/

namespace BlockNotebook.Markdown

open Text

/-- The characters that mean something in markdown. -/
def isSpecial (c : Char) : Bool := "\\*_`[]()".toList.contains c

/-- Every character that means something with a backslash in front. -/
def escapeSpecial (t : Text) : Text :=
  t.flatMap fun c => if c.satisfies isSpecial then ['\\', c] else [c]

/-- A period at the very end with a backslash in front. -/
def escapeLastPeriod (t : Text) : Text :=
  if t.getLast? == some (.char '.') then t.dropLast ++ Text.ofChars ['\\', '.'] else t

/-- Plain text of a paragraph as markdown. -/
def escape (t : Text) : Text := escapeLastPeriod (escapeSpecial t)

def separator : String := "<hr>"

/-- A cell of prose of a kind. -/
def cellOf (b : Block) : Kind → Except CompileFault Text
  | .paragraph => .ok (escape b.text)
  | .heading1 => .ok ("# " ++ b.text)
  | .heading2 => .ok ("## " ++ b.text)
  | .heading3 => .ok ("### " ++ b.text)
  | .bullet => .ok ("- " ++ b.text)
  | .todo =>
    if b.form.isSome then
      .ok ((if b.metadata.isSet "checked" then "- [x] " else "- [ ] ") ++ b.text)
    else .error (.noField "checked")
  | .callout => .ok ("> " ++ b.text)
  | _ => .error (.block b.id (.unsupported b.type .markdown))

/-- A cell of prose; any other block has no such form. -/
def cell (b : Block) : Except CompileFault Text :=
  match b.kind? with
  | some k => cellOf b k
  | none => .error (.block b.id (.unsupported b.type .markdown))

/-! ## Taking the marks off -/

/-- The text after one or more blanks, all of which are taken off; none if it starts with no blank. -/
def afterBlanks : Text → Option Text
  | c :: rest => if c.satisfies isBlank then some (rest.dropWhile (·.satisfies isBlank)) else none
  | [] => none

/-- The text after the marks of a heading. -/
def afterHeading (t : Text) : Option Text :=
  let marks := t.takeWhile (· == .char '#')
  if 1 ≤ marks.length && marks.length ≤ 6 then afterBlanks (t.drop marks.length) else none

/-- The text after a character and blanks. -/
def afterMark (mark : Char) : Text → Option Text
  | c :: rest => if c == mark then afterBlanks rest else none
  | [] => none

/-- The text after a list mark and a box. -/
def afterBox (t : Text) : Option Text :=
  match afterMark '-' t with
  | some (.char '[' :: c :: .char ']' :: rest) =>
    if c == ' ' || c == 'x' || c == 'X' then afterBlanks rest else none
  | _ => none

/-- The text after the marks of a kind, if it starts with them. -/
def afterMarks (k : Kind) (t : Text) : Option Text :=
  match k with
  | .heading1 | .heading2 | .heading3 => afterHeading t
  | .bullet => afterMark '-' t
  | .todo => afterBox t
  | .callout => afterMark '>' t
  | _ => none

/-- The text of a cell without the marks of its kind and without blanks around. -/
def plainCell (b : Block) : Text :=
  let t := trim (·.satisfies isBlank) b.text
  let rest :=
    match b.kind? with
    | some k => (afterMarks k t).getD t
    | none => t
  trim (·.satisfies isBlank) rest

end BlockNotebook.Markdown
