import BlockNotebook.Text.Ranges
/-!
Blank characters, and texts with the blanks at their ends taken off.

`isWhiteSpace` is the Unicode property. `isBlank` adds the four information
separators, which also part words and lines of plain text.
-/

namespace BlockNotebook.Text

/-- The characters with the Unicode property White_Space. -/
def whiteSpace : Ranges := [
   (0x9, 0xD), (0x20, 0x20), (0x85, 0x85), (0xA0, 0xA0), (0x1680, 0x1680), (0x2000, 0x200A),
   (0x2028, 0x2029), (0x202F, 0x202F), (0x205F, 0x205F), (0x3000, 0x3000)]

def isWhiteSpace (c : Char) : Bool := whiteSpace.contains c

/-- White space and the information separators U+001C to U+001F. -/
def isBlank (c : Char) : Bool :=
  isWhiteSpace c || (decide (0x1C ≤ c.toNat) && decide (c.toNat ≤ 0x1F))

/-- The text without what is of the class at its start. -/
def trimStart {α : Type} (p : α → Bool) (t : List α) : List α := t.dropWhile p

/-- The text without what is of the class at its end. -/
def trimEnd {α : Type} (p : α → Bool) (t : List α) : List α := (t.reverse.dropWhile p).reverse

/-- The text without what is of the class at either end. -/
def trim {α : Type} (p : α → Bool) (t : List α) : List α := trimEnd p (trimStart p t)

end BlockNotebook.Text
