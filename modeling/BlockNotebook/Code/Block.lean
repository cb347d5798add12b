import BlockNotebook.Block.TableState
import BlockNotebook.Code.Input
import BlockNotebook.Code.Display
import BlockNotebook.Text.Case
/-!
Blocks as code.
-/

namespace BlockNotebook

open Schema

namespace Code

/-! ## Code and queries -/

/-- The display state of the table a block shows. -/
def tableState (b : Block) : Option Checked := b.metadata.record? "deepnote_table_state"

/-- The source of a block after the code that sets up its table. -/
def source (b : Block) : Except CompileFault Text :=
  (TableState.code (tableState b)).map fun p => p ++ "\n\n" ++ b.text

/-- A low line for every hyphen. -/
def withoutHyphens (t : Text) : Text := t.map fun c => if c == .char '-' then .char '_' else c

/-- The variable of the environment with the credentials for a database. -/
def connectionVariable (integration : Text) : Text :=
  if integration.isEmpty then "SQL_ALCHEMY_JSON_ENV_VAR"
  else "SQL_" ++ withoutHyphens (Text.upper integration)

/-- A call that runs a query. -/
def queryCall (query connection returnType : Text) : Text :=
  "_dntk.execute_sql(\n  " ++ literal query ++ ",\n  " ++ literal connection ++
    ",\n  audit_sql_comment='',\n  sql_cache_mode='cache_disabled',\n  return_variable_type='" ++
    returnType ++ "'\n)"

/-- The call that runs the query of a block, assigned to its variable if it has one, after the code
that sets up its table if it has a state. -/
def query (b : Block) : Except CompileFault Text := do
  let m := b.metadata
  let call := queryCall b.text (connectionVariable ((m.text? "sql_integration_id").getD []))
    ((m.text? "deepnote_return_variable_type").getD "dataframe")
  let name := (m.text? "deepnote_variable_name").getD []
  let statement := if name.isEmpty then call else assign (nameOf name) call
  match tableState b with
  | none => return statement
  | some state => return (← TableState.code (some state)) ++ "\n\n" ++ statement

/-! ## Buttons -/

/-- The variables of the buttons that are pressed. -/
abbrev Context := List Text

/-- A button that sets a variable tells whether it is pressed; any other compiles to nothing. -/
def button (context : Option Context) (b : Block) : Except CompileFault Text :=
  if b.metadata.text? "deepnote_button_behavior" != some "set_variable" then .ok []
  else
    let name := (b.metadata.text? "deepnote_variable_name").getD []
    if name.isEmpty then .error (.block b.id .buttonWithoutVariable)
    else
      let target := nameOf name
      .ok (assign target (truth ((context.getD []).contains target)))

/-! ## All kinds -/

/-- The field of its form that the compiler of a kind reads first, if it reads any. -/
def firstField? : Kind → Option String
  | .sql => some "sql_integration_id"
  | .code => some "deepnote_table_state"
  | .inputText | .inputTextarea | .inputCheckbox | .inputSlider => some "deepnote_variable_value"
  | .inputSelect | .inputFile | .inputDate | .inputDateRange | .visualization =>
    some "deepnote_variable_name"
  | .button => some "deepnote_button_behavior"
  | .bigNumber => some "deepnote_big_number_title"
  | .todo => some "checked"
  | .image => some "deepnote_img_src"
  | _ => none

/-- The block has the form that the compiler of the kind reads. -/
def hasForm (k : Kind) (b : Block) : Bool := b.form.isSome || (firstField? k).isNone

end Code

namespace Block

/-- The fault of a block that lacks the form of its kind. -/
def formless (k : Kind) : CompileFault := .noField ((Code.firstField? k).getD "")

/-- The code of a block with the form of a kind. -/
def codeOf (context : Option Code.Context) (b : Block) : Kind → Except CompileFault Text
  | .code => Code.source b
  | .sql => Code.query b
  | .inputText | .inputTextarea => .ok (Code.textInput b)
  | .inputCheckbox => .ok (Code.checkbox b)
  | .inputSelect => .ok (Code.select b)
  | .inputSlider => .ok (Code.slider b)
  | .inputFile => .ok (Code.file b)
  | .inputDate => .ok (Code.date b)
  | .inputDateRange => Code.dateRange b
  | .visualization => Code.chart b
  | .button => Code.button context b
  | .bigNumber => .ok (Code.bigNumber b)
  | _ => .error (.block b.id (.unsupported b.type .code))

def hasCode (b : Block) : Bool := (b.kind?.map Kind.hasCode).getD false

/-- The code of a block. -/
def code (context : Option Code.Context) (b : Block) : Except CompileFault Text :=
  match b.kind? with
  | some k =>
    if !k.hasCode then .error (.block b.id (.unsupported b.type .code))
    else if Code.hasForm k b then b.codeOf context k
    else .error (formless k)
  | none => .error (.block b.id (.unsupported b.type .code))

/-- What is logged while the code of a block is made. -/
def codeLog (b : Block) : List Log.Record :=
  if b.kind? == some .inputSlider && b.form.isSome then Code.sliderWarnings b else []

end Block

end BlockNotebook
