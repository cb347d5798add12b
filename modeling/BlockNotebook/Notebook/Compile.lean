import BlockNotebook.Notebook.Basic
import BlockNotebook.Code.Block
import BlockNotebook.Markdown.Block
/-!
Notebooks compiled block by block, in the order of their sorting keys.

Kinds that have neither code nor markdown are left out. A block that does not
compile is left out too, or ends the whole, as the caller asks.
-/

namespace BlockNotebook

inductive Language
  | code
  | markdown
  deriving DecidableEq, Repr

/-- What a block compiles to. -/
structure Compiled where
  blockId : Text
  kind : Text
  language : Language
  text : Text
  deriving DecidableEq, Repr

/-- What to do with a block that does not compile. -/
inductive OnError
  | fail
  | skip
  deriving DecidableEq, Repr

/-- What comes of some work: its result, and what is logged on the way. -/
structure Outcome (α : Type) where
  logs : List Log.Record
  result : Except CompileFault α

namespace Block

/-- A block with neither code nor markdown is left out, which is logged. -/
def leftOut (b : Block) : Log.Record := ⟨.debug, .blocks, "Skipping block " ++ b.id ++ " of kind " ++ b.type⟩

/-- A block compiled to code, or else to markdown. -/
def compile (context : Option Code.Context) (b : Block) : Outcome (Option Compiled) :=
  if b.hasCode then
    ⟨b.codeLog, (b.code context).map fun text => some ⟨b.id, b.type, .code, text⟩⟩
  else if b.hasMarkdown then
    ⟨[], b.markdown.map fun text => some ⟨b.id, b.type, .markdown, text⟩⟩
  else ⟨[b.leftOut], .ok none⟩

end Block

namespace Notebook

/-- A block that does not compile is skipped, which is logged. -/
def skipped (b : Block) (f : CompileFault) : Log.Record :=
  ⟨.warning, .blocks, "Skipping block " ++ b.id ++ ": " ++ f.message⟩

/-- Blocks compiled in the given order. -/
def compileBlocks (context : Option Code.Context) (policy : OnError) : List Block → Outcome (List Compiled)
  | [] => ⟨[], .ok []⟩
  | b :: rest =>
    let first := b.compile context
    match first.result with
    | .ok found =>
      let others := compileBlocks context policy rest
      ⟨first.logs ++ others.logs, others.result.map (found.toList ++ ·)⟩
    | .error f =>
      if policy == .skip && f.isBlockFault then
        let others := compileBlocks context policy rest
        ⟨first.logs ++ skipped b f :: others.logs, others.result⟩
      else ⟨first.logs, .error f⟩

/-- How many blocks were compiled. -/
def counted (n : Notebook) (compiled : List Compiled) : Log.Record :=
  ⟨.info, .blocks, s!"Compiled {compiled.length} of {n.blocks.length} blocks in notebook " ++
    Text.quote n.name⟩

/-- The blocks of a notebook, compiled. -/
def compile (context : Option Code.Context) (policy : OnError) (n : Notebook) : Outcome (List Compiled) :=
  let done := compileBlocks context policy (sortBlocks n.blocks)
  match done.result with
  | .ok compiled => ⟨done.logs ++ [n.counted compiled], .ok compiled⟩
  | .error f => ⟨done.logs, .error f⟩

end Notebook

end BlockNotebook
