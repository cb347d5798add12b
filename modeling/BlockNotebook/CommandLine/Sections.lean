import BlockNotebook.Notebook.Render
/-!
Notebooks compiled one after the other, each to a section of one text.
-/

namespace BlockNotebook.CommandLine

inductive Format
  | script
  | document
  deriving DecidableEq, Repr

namespace Format

def all : List Format := [.script, .document]

def name : Format → String
  | .script => "python"
  | .document => "markdown"

def ofName? (name : Text) : Option Format := all.find? fun f => name == f.name

def render : Format → List Compiled → Text
  | .script => Compiled.script
  | .document => Compiled.document

/-- The line above the section of the notebook with a name. -/
def heading (name : Text) : Format → Text
  | .script => "# Notebook: " ++ name
  | .document => "# " ++ name

end Format

/-- A notebook that does not compile, and why. -/
structure NotCompiled where
  notebook : Notebook
  fault : CompileFault

/-- Notebooks compiled in their order, up to the first that does not compile; with what is logged. -/
def compileEach (context : Option Code.Context) (policy : OnError) :
    List Notebook → List Log.Record × Except NotCompiled (List (Notebook × List Compiled))
  | [] => ([], .ok [])
  | n :: rest =>
    let first := n.compile context policy
    match first.result with
    | .error f => (first.logs, .error ⟨n, f⟩)
    | .ok compiled =>
      let others := compileEach context policy rest
      (first.logs ++ others.1, others.2.map ((n, compiled) :: ·))

/-- The section of a notebook. It has a heading if there are other sections. -/
def sectionText (format : Format) (headed : Bool) (n : Notebook) (compiled : List Compiled) : Text :=
  if headed then format.heading n.name ++ "\n\n" ++ format.render compiled else format.render compiled

/-- The sections of compiled notebooks, one below the other. -/
def sections (format : Format) (done : List (Notebook × List Compiled)) : Text :=
  Text.joinWith "\n" (done.map fun d => sectionText format (decide (1 < done.length)) d.1 d.2)

end BlockNotebook.CommandLine
