import BlockNotebook.Block.Basic
import BlockNotebook.Block.Fault
import BlockNotebook.Code.Literal
import BlockNotebook.Code.Name
import BlockNotebook.Json.Text
import BlockNotebook.Text.Lines
/-!
Blocks that show data: charts and big numbers.
-/

namespace BlockNotebook.Code

open Schema

/-! ## Charts -/

/-- Data as a literal of its JSON text. -/
def jsonLiteral (v : Value) : Except CompileFault Text :=
  match Json.write v with
  | .ok t => .ok (literal t)
  | .error f => .error (.json f)

/-- The filters of a chart; an empty list if there are none. -/
def chartFilters (metadata : Checked) : Value :=
  match metadata.record? "deepnote_chart_filter" with
  | none => .list []
  | some filter =>
    match filter.items? "advancedFilters" with
    | none => .list []
    | some items => .list (items.map Checked.toValue)

/-- A call that draws a chart of a variable. -/
def chart (b : Block) : Except CompileFault Text :=
  let metadata := b.metadata
  let name := (metadata.text? "deepnote_variable_name").getD []
  if name.isEmpty then .error (.block b.id (.chartWithout "deepnote_variable_name"))
  else
    match metadata.data "deepnote_visualization_spec" with
    | .null => .error (.block b.id (.chartWithout "deepnote_visualization_spec"))
    | spec => do
      let specLiteral ← jsonLiteral spec
      let filters ← jsonLiteral (chartFilters metadata)
      return "_dntk.DeepnoteChart(" ++ nameOf name ++ ", " ++ specLiteral ++
        ", attach_selection=True, filters=" ++ filters ++ ")"

/-! ## Big numbers -/

/-- The text after the first pair of characters `a b`, if there is one. -/
def afterPair (a b : Char) : List Char → Option (List Char)
  | x :: y :: rest => if x == a && y == b then some rest else afterPair a b (y :: rest)
  | _ => none

/-- A part of a text between two pairs of marks that open and close a template. -/
def hasTemplate (t : Text) : Bool :=
  let between (inner outer : Char) : Bool :=
    ((afterPair '\x7b' inner t.characters).bind (afterPair outer '\x7d')).isSome
  between '\x7b' '\x7d' || between '%' '%'

/-- A title: rendered when the code runs, if it holds a template. -/
def titleCode (title : Option Text) : Text :=
  let t := title.getD []
  if hasTemplate t then "render_template(" ++ literal t ++ ")" else literal t

/-- The present value of a variable as text. -/
def valueCode (name : Text) : Text := "f\"\x7b" ++ nameOf name ++ "\x7d\""

def bigNumberField (key : String) (code : Text) : Text := "        \"" ++ key ++ "\": " ++ code ++ ","

def bigNumberHead : String :=
  "def __deepnote_big_number__():\n" ++
  "    import json\n" ++
  "    import jinja2\n" ++
  "    from jinja2 import meta\n" ++
  "\n" ++
  "    def render_template(template):\n" ++
  "        parsed_content = jinja2.Environment().parse(template)\n" ++
  "        required_variables = meta.find_undeclared_variables(parsed_content)\n" ++
  "        context = \x7b\n" ++
  "            variable_name: globals().get(variable_name)\n" ++
  "            for variable_name in required_variables\n" ++
  "        \x7d\n" ++
  "        return jinja2.Environment().from_string(template).render(context)\n" ++
  "\n" ++
  "    return json.dumps(\x7b\n"

def bigNumberTail : String := "\n    \x7d)\n\n__deepnote_big_number__()\n"

/-- A number with a title, and with another to compare it to if one is given. -/
def bigNumber (b : Block) : Text :=
  let text (name : String) : Text := (b.metadata.text? name).getD []
  let title (name : String) : Text := titleCode (b.metadata.text? name)
  let otherTitle := text "deepnote_big_number_comparison_title"
  let otherValue := text "deepnote_big_number_comparison_value"
  let fields :=
    [bigNumberField "title" (title "deepnote_big_number_title"),
      bigNumberField "value" (valueCode (text "deepnote_big_number_value"))] ++
    (if otherTitle.isEmpty && otherValue.isEmpty then []
    else
      [bigNumberField "comparisonTitle" (title "deepnote_big_number_comparison_title"),
        bigNumberField "comparisonValue" (if otherValue.isEmpty then "None" else valueCode otherValue)])
  bigNumberHead ++ Text.joinWith "\n" fields ++ bigNumberTail

end BlockNotebook.Code
