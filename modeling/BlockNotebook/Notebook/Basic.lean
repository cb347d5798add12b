import BlockNotebook.Block.Basic
/-!
Notebooks: named lists of blocks.
-/

namespace BlockNotebook

open Schema

structure Notebook where
  content : Checked
  deriving Inhabited

namespace Notebook

/-- The shape of a notebook. Entries it does not know are dropped. -/
def shape : Shape :=
  .record "Notebook" false [
    Block.required "id" .text,
    Block.required "name" .text,
    Block.required "blocks" (.listOf Block.shape),
    Block.optionalAs "execution_mode" "executionMode" (.choice ["block", "downstream"]),
    Block.optionalAs "is_module" "isModule" .flag,
    Block.optionalAs "working_directory" "workingDirectory" .text]

/-- The notebook that data describes. -/
def read (v : Value) : Verdict Notebook := (check shape v).map Notebook.mk

def id (n : Notebook) : Text := (n.content.text? "id").getD []

def name (n : Notebook) : Text := (n.content.text? "name").getD []

/-- The blocks in their stored order. -/
def blocks (n : Notebook) : List Block := ((n.content.items? "blocks").getD []).map Block.ofChecked

/-! ## Order -/

/-- The block does not come after the other by its sorting key. -/
def inOrder (a b : Block) : Bool := decide (a.sortingKey ≤ b.sortingKey)

/-- A block put in front of the first one that it does not come after. -/
def insertBlock (b : Block) : List Block → List Block
  | [] => [b]
  | c :: rest => if inOrder b c then b :: c :: rest else c :: insertBlock b rest

/-- Blocks by their sorting keys; those with one key keep their stored order. -/
def sortBlocks (bs : List Block) : List Block := bs.foldr insertBlock []

theorem insertBlock_perm (b : Block) (bs : List Block) : (insertBlock b bs).Perm (b :: bs) := by
  induction bs with
  | nil => exact .refl _
  | cons c rest ih =>
    rw [insertBlock]
    split
    · exact .refl _
    · exact (ih.cons c).trans (.swap b c rest)

theorem sortBlocks_perm (bs : List Block) : (sortBlocks bs).Perm bs := by
  induction bs with
  | nil => exact .refl _
  | cons b rest ih => exact (insertBlock_perm b _).trans (ih.cons b)

end Notebook

end BlockNotebook
