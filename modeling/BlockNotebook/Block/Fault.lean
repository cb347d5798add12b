import BlockNotebook.Schema.Export
import BlockNotebook.Json.Text
/-!
Why a block does not compile.
-/

namespace BlockNotebook

/-- What may be asked of a block. -/
inductive Operation
  | code
  | markdown
  | plainText
  deriving DecidableEq, Repr

def Operation.name : Operation → String
  | .code => "Creating python code"
  | .markdown => "Creating markdown"
  | .plainText => "Stripping markdown"

/-- What is wrong with a block itself. -/
inductive BlockFault
  /-- The kind has no such form. -/
  | unsupported (type : Text) (operation : Operation)
  | chartWithout (field : String)
  | buttonWithoutVariable
  /-- Two texts that are not the first and last date of a range. -/
  | notDateRange (start stop : Text)
  | unknownRange (text : Text)
  deriving DecidableEq, Repr

/-- The field a fault concerns. -/
def BlockFault.field? : BlockFault → Option String
  | .unsupported _ _ => none
  | .chartWithout field => some field
  | .buttonWithoutVariable => some "deepnote_variable_name"
  | .notDateRange _ _ => some "deepnote_variable_value"
  | .unknownRange _ => some "deepnote_variable_value"

/-- The wording of a fault of the block with an id. -/
def BlockFault.message (id : Text) : BlockFault → Text
  | .unsupported type operation =>
    s!"{operation.name} from block type " ++ type ++ " is not supported yet."
  | .chartWithout field =>
    "Visualization block \"" ++ id ++ "\" is missing required field \"" ++ field ++ "\"."
  | .buttonWithoutVariable =>
    "Button block \"" ++ id ++ "\" has behavior \"set_variable\" but is missing " ++
      "required field \"deepnote_variable_name\"."
  | .notDateRange start stop =>
    "Date range block \"" ++ id ++ "\" has an invalid date range in field " ++
      "\"deepnote_variable_value\": [" ++ Text.quote start ++ ", " ++ Text.quote stop ++ "]."
  | .unknownRange text =>
    "Date range block \"" ++ id ++ "\" has an unsupported value " ++ Text.quote text ++
      " in field \"deepnote_variable_value\"."

/-- Why a block does not compile. Only the first kind of fault is the block's own. -/
inductive CompileFault
  | block (id : Text) (fault : BlockFault)
  /-- The block has open metadata, and its kind reads a field of its own form. -/
  | noField (name : String)
  | number (fault : Number.Fault)
  | json (fault : Json.Fault)
  | notExported (fault : Schema.ExportFault)
  deriving DecidableEq, Repr

namespace CompileFault

/-- A fault of the block itself, which a notebook can leave out. -/
def isBlockFault : CompileFault → Bool
  | .block _ _ => true
  | _ => false

def message : CompileFault → Text
  | .block id f => f.message id
  | .noField name => s!"'dict' object has no attribute '{name}'"
  | .number f => f.message
  | .json f => f.message
  | .notExported f => f.message

end CompileFault

end BlockNotebook
