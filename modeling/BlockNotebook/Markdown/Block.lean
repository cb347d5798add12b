import BlockNotebook.Markdown.Text
import BlockNotebook.Markdown.Image
/-!
Blocks as markdown.
-/

namespace BlockNotebook.Block

def hasMarkdown (b : Block) : Bool := (b.kind?.map Kind.hasMarkdown).getD false

/-- The markdown of a block. -/
def markdown (b : Block) : Except CompileFault Text :=
  match b.kind? with
  | some .markdown => .ok b.text
  | some .separator => .ok Markdown.separator
  | some .image => if b.form.isSome then .ok (Markdown.image b) else .error (.noField "deepnote_img_src")
  | _ => Markdown.cell b

/-- The text of a cell of prose without the marks of its kind. -/
def plainText (b : Block) : Except CompileFault Text :=
  if (b.kind?.map Kind.isText).getD false then .ok (Markdown.plainCell b)
  else .error (.block b.id (.unsupported b.type .plainText))

end BlockNotebook.Block
