import BlockNotebook.Block.Basic
import BlockNotebook.Block.Fault
import BlockNotebook.Code.Literal
/-!
The display state of a table as text, and the code that hands it to the
formatter of tables.
-/

namespace BlockNotebook

open Schema

namespace TableState

/-- The state that data describes; null is no state. -/
def read (v : Value) : Verdict (Option Checked) :=
  match v with
  | .null => .ok none
  | v => (check Block.tableStateShape v).map some

/-- The state as JSON without the fields that were never set. -/
def json (state : Option Checked) : Except CompileFault Text :=
  match state with
  | none => .ok "\x7b\x7d"
  | some c => do
    let v ← c.exported.mapError .notExported
    (Json.write v).mapError .json

/-- Code that hands a literal to the formatter, whether or not that is loaded when the code runs. -/
def preamble (literal : Text) : Text :=
  "if '_dntk' in globals():\n  _dntk.dataframe_utils.configure_dataframe_formatter(" ++ literal ++
    ")\nelse:\n  _deepnote_current_table_attrs = " ++ literal

/-- Code that hands the state to the formatter. -/
def code (state : Option Checked) : Except CompileFault Text :=
  (json state).map fun t => preamble (Code.literal t)

end TableState

end BlockNotebook
