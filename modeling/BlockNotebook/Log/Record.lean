import BlockNotebook.Text.CodePoint
/-!
Records of what happens while documents are read and notebooks are compiled.
-/

namespace BlockNotebook.Log

inductive Level
  | debug
  | info
  | warning
  deriving DecidableEq, Repr

namespace Level

def name : Level → String
  | .debug => "DEBUG"
  | .info => "INFO"
  | .warning => "WARNING"

/-- The weight of a level: a reader asks for the records from some weight on. -/
def weight : Level → Nat
  | .debug => 10
  | .info => 20
  | .warning => 30

end Level

/-- The parts of the program that log. -/
inductive Source
  | blocks
  | documents
  deriving DecidableEq, Repr

def Source.name : Source → String
  | .blocks => "dnb.blocks"
  | .documents => "dnb.deserialize"

structure Record where
  level : Level
  source : Source
  message : Text
  deriving DecidableEq, Repr

end BlockNotebook.Log
