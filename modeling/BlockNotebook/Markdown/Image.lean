import BlockNotebook.Block.Basic
import BlockNotebook.Block.Fault
import BlockNotebook.Markdown.Address
/-!
Images as markup, with attributes that stay inside their quotes.
-/

namespace BlockNotebook.Markdown

open Text

/-! ## Attributes -/

/-- One code point of an attribute. -/
def entity (c : CodePoint) : Text :=
  if c == '&' then "&amp;"
  else if c == '<' then "&lt;"
  else if c == '>' then "&gt;"
  else if c == '"' then "&quot;"
  else if c == '\'' then "&#39;"
  else [c]

/-- A text as the value of an attribute. -/
def escapeAttribute (t : Text) : Text := t.flatMap entity

/-- The digits of a width. -/
def widthDigits (t : Text) : String := String.ofList (t.characters.filter isAsciiDigit)

/-- One of the three alignments, in small letters; empty for anything else. -/
def alignment (t : Text) : String := (["left", "center", "right"].find? fun (word : String) => lower t == word).getD ""

/-! ## Blocks -/

def imageTag (src width align : Text) : Text :=
  "<img src=\"" ++ src ++ "\" width=\"" ++ width ++ "\" align=\"" ++ align ++ "\" />"

/-- An image block as a tag. -/
def image (b : Block) : Text :=
  let text (name : String) : Text := (b.metadata.text? name).getD []
  imageTag (escapeAttribute (imageAddress (text "deepnote_img_src")))
    (widthDigits (text "deepnote_img_width")) (alignment (text "deepnote_img_alignment"))

end BlockNotebook.Markdown
